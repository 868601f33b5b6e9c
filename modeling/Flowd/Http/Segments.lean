import Flowd.Http.Parser
import Flowd.Lib.Segments

namespace Flowd.Http

/-! Where a message may be cut: the parser waits in the first line and in a body of known length, and nowhere else. -/

/-- The text of the first line, none if it is not UTF-8, and what follows the line. -/
def firstLine (bytes : List UInt8) : Option (Option String × List UInt8) :=
  (findCrlf bytes).map fun lineEnd => (fromUtf8 (bytes.take lineEnd), bytes.drop (lineEnd + 2))

/-- The rest of the bytes behind the CRLF that may follow a chunk. -/
def skipCrlf (buffer : List UInt8) : List UInt8 := if buffer.take 2 = [13, 10] then buffer.drop 2 else buffer

section
variable (casing : Casing)

/-- Lines that are headers, up to where `rest` is left. -/
inductive HeaderLines : HashMap String String → List UInt8 → HashMap String String → List UInt8 → Prop where
  | nil {headers : HashMap String String} {bytes : List UInt8} : HeaderLines headers bytes headers bytes
  | line {headers all : HashMap String String} {bytes next rest : List UInt8} {line key value : String}
      (more : findCrlf bytes ≠ some 0) (first : firstLine bytes = some (some line, next))
      (header : parseHeaderLine casing line = some (key, value))
      (later : HeaderLines (AList.insert key value headers) next all rest) : HeaderLines headers bytes all rest

/-- A line that is neither empty nor a header. -/
def BadHeader (bytes : List UInt8) : Prop :=
  findCrlf bytes ≠ some 0 ∧ ∃ text rest, firstLine bytes = some (text, rest) ∧
    ∀ line ∈ text, parseHeaderLine casing line = none

/-- The lines of a request up to `rest`: a request line and headers. -/
inductive HeadLines (bytes : List UInt8) : HashMap String String → List UInt8 → Prop where
  | mk {line : String} {lines rest : List UInt8} {request : HttpRequest} {headers : HashMap String String}
      (first : firstLine bytes = some (some line, lines)) (asks : parseRequestLine casing line = .ok request)
      (later : HeaderLines casing ∅ lines headers rest) : HeadLines bytes headers rest

/-- What the headers say about the body. -/
inductive Framing where
  | chunked
  | sized (length : Nat)
  | invalid
deriving DecidableEq

def framing (headers : HashMap String String) : Framing :=
  if (headers.lookup "transfer-encoding").map casing.toLowercase = some "chunked" then .chunked
  else
    match headers.lookup "content-length" with
    | none => .sized 0
    | some text =>
        match fromStrRadix 10 text with
        | none => .invalid
        | some length => .sized length

/-- The chunks go up to the last one, or to what is no size. -/
inductive ChunksEnd : List UInt8 → Prop where
  | bad {bytes rest : List UInt8} {text : Option String} (first : firstLine bytes = some (text, rest))
      (invalid : ∀ line ∈ text, parseChunkSize line = none) : ChunksEnd bytes
  | last {bytes rest : List UInt8} {line : String} (first : firstLine bytes = some (some line, rest))
      (size : parseChunkSize line = some 0) : ChunksEnd bytes
  | chunk {bytes rest : List UInt8} {line : String} {size : Nat} (first : firstLine bytes = some (some line, rest))
      (sized : parseChunkSize line = some (size + 1)) (enough : size + 1 ≤ rest.length)
      (later : ChunksEnd (skipCrlf (rest.drop (size + 1)))) : ChunksEnd bytes

/-- No line has come to its end, or the head has and announces more than follows it. -/
inductive Pausable (bytes : List UInt8) : Prop where
  | line (open_ : findCrlf bytes = none)
  | body {headers : HashMap String String} {rest : List UInt8} {length : Nat} (head : HeadLines casing bytes headers rest)
      (ended : findCrlf rest = some 0) (sized : framing casing headers = .sized length)
      (short : rest.length < length + 2)

/-- The bytes hold a whole message, or what is none. -/
inductive Ends (bytes : List UInt8) : Prop where
  | badLine {text : Option String} {rest : List UInt8} (first : firstLine bytes = some (text, rest))
      (invalid : ∀ line ∈ text, ∃ response, parseRequestLine casing line = .error response)
  | badHeader {headers : HashMap String String} {rest : List UInt8} (head : HeadLines casing bytes headers rest)
      (bad : BadHeader casing rest)
  | badLength {headers : HashMap String String} {rest : List UInt8} (head : HeadLines casing bytes headers rest)
      (ended : findCrlf rest = some 0) (invalid : framing casing headers = .invalid)
  | sized {headers : HashMap String String} {rest : List UInt8} {length : Nat} (head : HeadLines casing bytes headers rest)
      (ended : findCrlf rest = some 0) (sized : framing casing headers = .sized length) (enough : length + 2 ≤ rest.length)
  | chunked {headers : HashMap String String} {rest : List UInt8} (head : HeadLines casing bytes headers rest)
      (ended : findCrlf rest = some 0) (chunked : framing casing headers = .chunked) (chunks : ChunksEnd (rest.drop 2))

end

variable {casing : Casing} {reading next : Reading} {parsed other : Parsed} {bytes rest more : List UInt8}

/-! What a round does to what the parser comes to. -/

theorem parse_more {rounds later : Nat} (parse : reading.parse casing rounds = some parsed) (more : rounds ≤ later) :
    reading.parse casing later = some parsed := by
  induction rounds generalizing reading later with
  | zero => cases parse
  | succ rounds ih =>
      obtain ⟨later, rfl⟩ : ∃ fewer, later = fewer + 1 := ⟨later - 1, by omega⟩
      rw [Reading.parse] at parse ⊢
      cases round : reading.round casing with
      | again next =>
          rw [round] at parse
          exact ih parse (by omega)
      | _ => simpa [round] using parse

theorem Parses.functional (left : reading.Parses casing parsed) (right : reading.Parses casing other) : parsed = other := by
  obtain ⟨rounds, left⟩ := left
  obtain ⟨others, right⟩ := right
  have one := parse_more left (Nat.le_max_left rounds others)
  have two := parse_more right (Nat.le_max_right rounds others)
  exact Option.some.inj (one.symm.trans two)

theorem parses_again (round : reading.round casing = .again next) :
    reading.Parses casing parsed ↔ next.Parses casing parsed := by
  constructor
  · rintro ⟨rounds, parse⟩
    cases rounds with
    | zero => cases parse
    | succ rounds =>
        rw [Reading.parse, round] at parse
        exact ⟨rounds, parse⟩
  · rintro ⟨rounds, parse⟩
    refine ⟨rounds + 1, ?_⟩
    rw [Reading.parse, round]
    exact parse

theorem parses_waiting (round : reading.round casing = .waiting next) : reading.Parses casing (.waiting next) :=
  ⟨1, by rw [Reading.parse, round]⟩

theorem parses_complete (round : reading.round casing = .complete next) : reading.Parses casing (.complete next) :=
  ⟨1, by rw [Reading.parse, round]⟩

theorem parses_of_failed {response : HttpResponse} (round : reading.round casing = .failed response) :
    reading.Parses casing (.failed response) :=
  ⟨1, by rw [Reading.parse, round]⟩

/-- A round that leaves everything as it was goes on forever. -/
theorem hangs (round : reading.round casing = .again reading) : ¬ reading.Parses casing parsed := by
  rintro ⟨rounds, parse⟩
  induction rounds with
  | zero => cases parse
  | succ rounds ih =>
      rw [Reading.parse, round] at parse
      exact ih parse

/-! Lines. -/

theorem findCrlf_append {lineEnd : Nat} (found : findCrlf bytes = some lineEnd) (more : List UInt8) :
    findCrlf (bytes ++ more) = some lineEnd ∧ lineEnd + 2 ≤ bytes.length := by
  induction bytes generalizing lineEnd with
  | nil => cases found
  | cons byte rest ih =>
      rw [findCrlf] at found
      rw [List.cons_append, findCrlf, List.length_cons]
      split at found
      · next both =>
          cases found
          obtain ⟨second, tail, rfl⟩ : ∃ second tail, rest = second :: tail := by
            cases rest with
            | nil => simp at both
            | cons second tail => exact ⟨second, tail, rfl⟩
          rw [if_pos (by simpa using both), List.length_cons]
          exact ⟨rfl, by omega⟩
      · next neither =>
          obtain ⟨before, there, rfl⟩ := Option.map_eq_some_iff.mp found
          obtain ⟨same, bound⟩ := ih there
          have still : ¬ (byte = 13 ∧ (rest ++ more).head? = some 10) := by
            cases rest with
            | nil => cases there
            | cons second tail => simpa using neither
          rw [if_neg still, same]
          exact ⟨rfl, by omega⟩

theorem firstLine_append {text : Option String} (found : firstLine bytes = some (text, rest)) (more : List UInt8) :
    firstLine (bytes ++ more) = some (text, rest ++ more) := by
  obtain ⟨lineEnd, there, split⟩ := Option.map_eq_some_iff.mp found
  obtain ⟨same, bound⟩ := findCrlf_append there more
  cases split
  rw [firstLine, same, Option.map_some, List.take_append_of_le_length (by omega), List.drop_append_of_le_length (by omega)]

theorem firstLine_shorter {text : Option String} (found : firstLine bytes = some (text, rest)) : rest.length < bytes.length := by
  obtain ⟨lineEnd, there, split⟩ := Option.map_eq_some_iff.mp found
  have bound := (findCrlf_append there []).2
  cases split
  rw [List.length_drop]
  omega

theorem ended_append (ended : findCrlf bytes ≠ some 0) {text : Option String} (found : firstLine bytes = some (text, rest))
    (more : List UInt8) : findCrlf (bytes ++ more) ≠ some 0 := by
  obtain ⟨lineEnd, there, -⟩ := Option.map_eq_some_iff.mp found
  rw [(findCrlf_append there more).1, ← there]
  exact ended

theorem HeaderLines.append {headers all : HashMap String String} (lines : HeaderLines casing headers bytes all rest)
    (more : List UInt8) : HeaderLines casing headers (bytes ++ more) all (rest ++ more) := by
  induction lines with
  | nil => exact .nil
  | line ended first header _ ih => exact .line (ended_append ended first more) (firstLine_append first more) header ih

theorem HeadLines.append {headers : HashMap String String} (head : HeadLines casing bytes headers rest)
    (more : List UInt8) : HeadLines casing (bytes ++ more) headers (rest ++ more) := by
  obtain ⟨first, asks, later⟩ := head
  exact ⟨firstLine_append first more, asks, later.append more⟩

/-- Header lines go up to one that has not come, the empty one or one that is no header. -/
theorem headerLines_stop (headers : HashMap String String) (bytes : List UInt8) : ∃ all rest,
    HeaderLines casing headers bytes all rest ∧
      (findCrlf rest = none ∨ findCrlf rest = some 0 ∨ BadHeader casing rest) := by
  induction length : bytes.length using Nat.strong_induction_on generalizing headers bytes with
  | _ size ih =>
      by_cases ended : findCrlf bytes = some 0
      · exact ⟨headers, bytes, .nil, .inr (.inl ended)⟩
      · cases found : firstLine bytes with
        | none => exact ⟨headers, bytes, .nil, .inl (Option.map_eq_none_iff.mp found)⟩
        | some line =>
            obtain ⟨text, next⟩ := line
            by_cases bad : ∀ line ∈ text, parseHeaderLine casing line = none
            · exact ⟨headers, bytes, .nil, .inr (.inr ⟨ended, text, next, found, bad⟩)⟩
            · push Not at bad
              obtain ⟨line, there, header⟩ := bad
              obtain ⟨⟨key, value⟩, header⟩ := Option.ne_none_iff_exists'.mp header
              cases there
              obtain ⟨all, rest, lines, stop⟩ := ih next.length (length ▸ firstLine_shorter found)
                (AList.insert key value headers) next rfl
              exact ⟨all, rest, .line ended found header lines, stop⟩

/-! What the parser comes to, state by state. -/

variable {headers all : HashMap String String} {request : HttpRequest}

theorem extend_start (bytes : List UInt8) : Reading.start.extend bytes = ⟨.requestLine, bytes, none⟩ := rfl

theorem round_requestLine {line : String} (first : firstLine bytes = some (some line, rest))
    (asks : parseRequestLine casing line = .ok request) :
    (Reading.start.extend bytes).round casing = .again ⟨.headers ∅, rest, some request⟩ := by
  obtain ⟨lineEnd, there, split⟩ := Option.map_eq_some_iff.mp first
  simp only [Prod.mk.injEq] at split
  rw [extend_start, Reading.round]
  simp only [there, split.1, asks, split.2]

theorem round_header {asked : Option HttpRequest} {line key value : String} (ended : findCrlf bytes ≠ some 0)
    (first : firstLine bytes = some (some line, rest)) (header : parseHeaderLine casing line = some (key, value)) :
    Reading.round casing ⟨.headers headers, bytes, asked⟩ = .again ⟨.headers (AList.insert key value headers), rest, asked⟩ := by
  obtain ⟨lineEnd, there, split⟩ := Option.map_eq_some_iff.mp first
  simp only [Prod.mk.injEq] at split
  obtain ⟨before, rfl⟩ : ∃ before, lineEnd = before + 1 :=
    Nat.exists_eq_succ_of_ne_zero fun zero => ended (zero ▸ there)
  rw [Reading.round]
  simp only [there, split.1, header, split.2]

theorem HeaderLines.parses {asked : Option HttpRequest} (lines : HeaderLines casing headers bytes all rest) :
    Reading.Parses casing ⟨.headers headers, bytes, asked⟩ parsed ↔
      Reading.Parses casing ⟨.headers all, rest, asked⟩ parsed := by
  induction lines with
  | nil => rfl
  | line ended first header _ ih => rw [parses_again (round_header ended first header), ih]

theorem HeadLines.parses (head : HeadLines casing bytes headers rest) : ∃ request : HttpRequest, ∀ more parsed,
    (Reading.start.extend (bytes ++ more)).Parses casing parsed ↔
      Reading.Parses casing ⟨.headers headers, rest ++ more, some request⟩ parsed := by
  obtain @⟨_, _, _, request, _, first, asks, later⟩ := head
  refine ⟨request, fun more parsed => ?_⟩
  rw [parses_again (round_requestLine (firstLine_append first more) asks), (later.append more).parses]

theorem round_ended {asked : Option HttpRequest} (ended : findCrlf bytes = some 0) :
    Reading.round casing ⟨.headers headers, bytes, asked⟩ = endOfHeaders casing headers (bytes.drop 2) asked := by
  rw [Reading.round]
  simp only [ended]

theorem round_badHeader {asked : Option HttpRequest} (bad : BadHeader casing bytes) :
    ∃ response, Reading.round casing ⟨.headers headers, bytes, asked⟩ = .failed response := by
  obtain ⟨ended, text, rest, first, invalid⟩ := bad
  obtain ⟨lineEnd, there, split⟩ := Option.map_eq_some_iff.mp first
  simp only [Prod.mk.injEq] at split
  obtain ⟨before, rfl⟩ : ∃ before, lineEnd = before + 1 :=
    Nat.exists_eq_succ_of_ne_zero fun zero => ended (zero ▸ there)
  rw [Reading.round]
  cases text with
  | none =>
      simp only [there, split.1]
      exact ⟨_, rfl⟩
  | some line =>
      simp only [there, split.1, invalid line rfl]
      exact ⟨_, rfl⟩

theorem round_badLine {text : Option String} (first : firstLine bytes = some (text, rest))
    (invalid : ∀ line ∈ text, ∃ response, parseRequestLine casing line = .error response) :
    ∃ response, (Reading.start.extend bytes).round casing = .failed response := by
  obtain ⟨lineEnd, there, split⟩ := Option.map_eq_some_iff.mp first
  simp only [Prod.mk.injEq] at split
  rw [extend_start, Reading.round]
  cases text with
  | none =>
      simp only [there, split.1]
      exact ⟨_, rfl⟩
  | some line =>
      obtain ⟨response, error⟩ := invalid line rfl
      simp only [there, split.1, error]
      exact ⟨_, rfl⟩

/-- What follows the headers, by what they say about the body. -/
theorem endOfHeaders_framing (headers : HashMap String String) (buffer : List UInt8) (request : HttpRequest) :
    endOfHeaders casing headers buffer (some request) =
      match framing casing headers with
      | .chunked => .again ⟨.chunkedBody [] none [], buffer, some { request with headers }⟩
      | .invalid => .failed (badRequest "Invalid Content-Length header")
      | .sized 0 => .complete ⟨.headers headers, buffer, some { request with headers }⟩
      | .sized length => .again ⟨.body length 0 [], buffer, some { request with headers }⟩ := by
  unfold endOfHeaders framing
  dsimp only
  split
  · rfl
  · cases headers.lookup "content-length" with
    | none => rfl
    | some text =>
        dsimp only
        cases fromStrRadix 10 text with
        | none => rfl
        | some length => cases length <;> rfl

theorem round_body_short {asked : Option HttpRequest} {length : Nat} (short : bytes.length < length) :
    Reading.round casing ⟨.body length 0 [], bytes, asked⟩ = .waiting ⟨.body length bytes.length bytes, [], asked⟩ := by
  have most : min length bytes.length = bytes.length := by omega
  simp only [Reading.round, Nat.sub_zero, Nat.zero_add, most, List.take_length, List.drop_length, List.nil_append]
  rw [if_neg (by omega)]

theorem round_body_whole {length : Nat} (enough : length + 1 ≤ bytes.length) :
    ∃ body, Reading.round casing ⟨.body (length + 1) 0 [], bytes, some request⟩ =
      .complete ⟨.body (length + 1) (length + 1) body, bytes.drop (length + 1), some { request with body }⟩ := by
  have most : min (length + 1) bytes.length = length + 1 := by omega
  simp only [Reading.round, Nat.sub_zero, Nat.zero_add, most, List.nil_append]
  rw [if_pos (by omega)]
  exact ⟨bytes.take (length + 1), rfl⟩

/-- A body that waits for its end goes on as if it had all of it at once. -/
theorem round_body_resumes {asked : Option HttpRequest} {length : Nat} (short : bytes.length < length) (more : List UInt8) :
    Reading.round casing ⟨.body length bytes.length bytes, more, asked⟩ =
      Reading.round casing ⟨.body length 0 [], bytes ++ more, asked⟩ := by
  have most : min (length - 0) (bytes ++ more).length = bytes.length + min (length - bytes.length) more.length := by
    rw [List.length_append]
    omega
  simp only [Reading.round, most, List.take_length_add_append, List.drop_length_add_append, List.nil_append, Nat.zero_add]
  by_cases whole : length ≤ bytes.length + min (length - bytes.length) more.length
  · rw [if_pos (by omega), if_pos (by omega)]
  · rw [if_neg (by omega), if_neg (by omega)]

/-! Chunks. -/

/-- What the connection gets from its parser: a request or an error response. -/
abbrev Outcome := HttpRequest ⊕ HttpResponse

/-- Where the parser waits, or what has come of the message. -/
def Parsed.result : Parsed → Reading ⊕ Outcome
  | .waiting reading => .inl reading
  | .complete reading =>
      match reading.request with
      | none => .inl reading
      | some request => .inr (.inl request)
  | .failed response => .inr (.inr response)

/-- The parser comes to an outcome. -/
def Reading.Finishes (casing : Casing) (reading : Reading) : Prop :=
  ∃ parsed outcome, reading.Parses casing parsed ∧ parsed.result = .inr outcome

theorem finishes_again (round : reading.round casing = .again next) : reading.Finishes casing ↔ next.Finishes casing := by
  simp only [Reading.Finishes, parses_again round]

theorem finishes_failed {response : HttpResponse} (round : reading.round casing = .failed response) : reading.Finishes casing :=
  ⟨_, .inr response, parses_of_failed round, rfl⟩

theorem finishes_complete (round : reading.round casing = .complete next) (asked : next.request = some request) :
    reading.Finishes casing :=
  ⟨_, .inl request, parses_complete round, by simp only [Parsed.result, asked]⟩

theorem round_badSize {asked : Option HttpRequest} {chunks : List (List UInt8)} {text : Option String}
    (first : firstLine bytes = some (text, rest)) (invalid : ∀ line ∈ text, parseChunkSize line = none) :
    ∃ response, Reading.round casing ⟨.chunkedBody chunks none [], bytes, asked⟩ = .failed response := by
  obtain ⟨lineEnd, there, split⟩ := Option.map_eq_some_iff.mp first
  simp only [Prod.mk.injEq] at split
  rw [Reading.round]
  cases text with
  | none =>
      simp only [there, split.1]
      exact ⟨_, rfl⟩
  | some line =>
      simp only [there, split.1, invalid line rfl]
      exact ⟨_, rfl⟩

theorem round_size {asked : Option HttpRequest} {chunks : List (List UInt8)} {line : String} {size : Nat}
    (first : firstLine bytes = some (some line, rest)) (sized : parseChunkSize line = some size) :
    Reading.round casing ⟨.chunkedBody chunks none [], bytes, asked⟩ =
      .again ⟨.chunkedBody chunks (some size) [], rest, asked⟩ := by
  obtain ⟨lineEnd, there, split⟩ := Option.map_eq_some_iff.mp first
  simp only [Prod.mk.injEq] at split
  rw [Reading.round]
  simp only [there, split.1, sized, split.2]

theorem round_chunk {asked : Option HttpRequest} {chunks : List (List UInt8)} {size : Nat}
    (enough : size + 1 ≤ bytes.length) :
    Reading.round casing ⟨.chunkedBody chunks (some (size + 1)) [], bytes, asked⟩ =
      .again ⟨.chunkedBody (chunks ++ [bytes.take (size + 1)]) none [], skipCrlf (bytes.drop (size + 1)), asked⟩ := by
  have most : min (size + 1) bytes.length = size + 1 := by omega
  simp only [Reading.round, most, List.nil_append, List.length_take]
  rw [if_pos (by omega)]
  rfl

/-- The rest of a chunk is waited for in the loop. -/
theorem chunk_hangs {asked : Option HttpRequest} {chunks : List (List UInt8)} {size : Nat} (short : bytes.length < size + 1) :
    ¬ Reading.Parses casing ⟨.chunkedBody chunks (some (size + 1)) [], bytes, asked⟩ parsed := by
  have most : min (size + 1) bytes.length = bytes.length := by omega
  have round : Reading.round casing ⟨.chunkedBody chunks (some (size + 1)) [], bytes, asked⟩ =
      .again ⟨.chunkedBody chunks (some (size + 1)) bytes, [], asked⟩ := by
    simp only [Reading.round, most, List.nil_append, List.take_length, List.drop_length]
    rw [if_neg (by omega)]
  have still : Reading.round casing ⟨.chunkedBody chunks (some (size + 1)) bytes, [], asked⟩ =
      .again ⟨.chunkedBody chunks (some (size + 1)) bytes, [], asked⟩ := by
    simp [Reading.round]
  rw [parses_again round]
  exact hangs still

theorem skipCrlf_le (bytes : List UInt8) : (skipCrlf bytes).length ≤ bytes.length := by
  unfold skipCrlf
  split
  · rw [List.length_drop]
    omega
  · exact Nat.le_refl _

theorem chunksEnd_iff {line : String} {size : Nat} (first : firstLine bytes = some (some line, rest))
    (sized : parseChunkSize line = some size) :
    ChunksEnd bytes ↔ size = 0 ∨ size ≤ rest.length ∧ ChunksEnd (skipCrlf (rest.drop size)) := by
  constructor
  · intro ends
    cases ends with
    | bad found invalid =>
        cases first.symm.trans found
        cases sized.symm.trans (invalid line rfl)
    | last found zero =>
        cases first.symm.trans found
        cases sized.symm.trans zero
        exact .inl rfl
    | chunk found more enough later =>
        cases first.symm.trans found
        cases sized.symm.trans more
        exact .inr ⟨enough, later⟩
  · intro ends
    cases size with
    | zero => exact .last first sized
    | succ size =>
        obtain ⟨enough, later⟩ := ends.resolve_left (Nat.succ_ne_zero size)
        exact .chunk first sized enough later

theorem trailers_finish (chunks : List (List UInt8)) (bytes : List UInt8) (request : HttpRequest) :
    Reading.Finishes casing ⟨.chunkedBody chunks (some 0) [], bytes, some request⟩ := by
  have last : Reading.round casing ⟨.chunkedBody chunks (some 0) [], bytes, some request⟩ =
      .again ⟨.trailers chunks, bytes, some request⟩ := rfl
  rw [finishes_again last]
  exact finishes_complete rfl rfl

/-- The chunks come to an end, or the parser does not. -/
theorem chunks_end (chunks : List (List UInt8)) (bytes : List UInt8) :
    ChunksEnd bytes ∧ Reading.Finishes casing ⟨.chunkedBody chunks none [], bytes, some request⟩ ∨
      ¬ ChunksEnd bytes ∧ ∀ parsed, ¬ Reading.Parses casing ⟨.chunkedBody chunks none [], bytes, some request⟩ parsed := by
  induction length : bytes.length using Nat.strong_induction_on generalizing chunks bytes with
  | _ total ih =>
      cases found : firstLine bytes with
      | none =>
          refine .inr ⟨?_, fun parsed => hangs ?_⟩
          · intro ends
            cases ends with
            | bad first | last first | chunk first => simp [found] at first
          · rw [Reading.round]
            simp only [Option.map_eq_none_iff.mp found]
      | some line =>
          obtain ⟨text, rest⟩ := line
          by_cases invalid : ∀ line ∈ text, parseChunkSize line = none
          · obtain ⟨response, failed⟩ : ∃ response,
                Reading.round casing ⟨.chunkedBody chunks none [], bytes, some request⟩ = .failed response :=
              round_badSize found invalid
            exact .inl ⟨.bad found invalid, finishes_failed failed⟩
          · push Not at invalid
            obtain ⟨line, there, valid⟩ := invalid
            obtain ⟨size, sized⟩ := Option.ne_none_iff_exists'.mp valid
            cases there
            have round : Reading.round casing ⟨.chunkedBody chunks none [], bytes, some request⟩ = _ :=
              round_size found sized
            rw [chunksEnd_iff found sized]
            simp only [finishes_again round, parses_again round]
            cases size with
            | zero => exact .inl ⟨.inl rfl, trailers_finish chunks rest request⟩
            | succ size =>
                by_cases enough : size + 1 ≤ rest.length
                · have shorter := firstLine_shorter found
                  have fewer := skipCrlf_le (rest.drop (size + 1))
                  rw [List.length_drop] at fewer
                  have later := ih _ (by omega) (chunks ++ [rest.take (size + 1)]) (skipCrlf (rest.drop (size + 1))) rfl
                  simp only [finishes_again (round_chunk enough), parses_again (round_chunk enough)]
                  simpa [enough] using later
                · refine .inr ⟨by simp [enough], fun parsed => chunk_hangs (by omega)⟩

/-! Messages. -/

theorem parses_congr {left right : Reading} (round : left.round casing = right.round casing) :
    left.Parses casing parsed ↔ right.Parses casing parsed := by
  have same : ∀ rounds, left.parse casing rounds = right.parse casing rounds := by
    intro rounds
    cases rounds with
    | zero => rfl
    | succ rounds => rw [Reading.parse, Reading.parse, round]
  simp only [Reading.Parses, same]

theorem ended_length (ended : findCrlf bytes = some 0) : 2 ≤ bytes.length := by
  have bound := (findCrlf_append ended []).2
  omega

theorem round_sized {length : Nat} (ended : findCrlf rest = some 0) (sized : framing casing headers = .sized (length + 1)) :
    Reading.round casing ⟨.headers headers, rest, some request⟩ =
      .again ⟨.body (length + 1) 0 [], rest.drop 2, some { request with headers }⟩ := by
  rw [round_ended ended, endOfHeaders_framing, sized]
  rfl

/-- Where a message may be cut the parser waits, and goes on as if it had all of the message at once. -/
theorem Pausable.pauses (pausable : Pausable casing bytes) : ∃ left : Reading,
    (Reading.start.extend bytes).Parses casing (.waiting left) ∧
      ∀ more parsed, (left.extend more).Parses casing parsed ↔ (Reading.start.extend (bytes ++ more)).Parses casing parsed := by
  cases pausable with
  | line open_ =>
      refine ⟨Reading.start.extend bytes, parses_waiting ?_, fun more parsed => Iff.rfl⟩
      rw [extend_start, Reading.round]
      simp only [open_]
  | @body headers rest length head ended sized short =>
      have two := ended_length ended
      obtain ⟨length, rfl⟩ : ∃ fewer, length = fewer + 1 := ⟨length - 1, by omega⟩
      obtain ⟨request, parses⟩ := head.parses
      have shorter : (rest.drop 2).length < length + 1 := by
        rw [List.length_drop]
        omega
      refine ⟨⟨.body (length + 1) (rest.drop 2).length (rest.drop 2), [], some { request with headers }⟩, ?_, ?_⟩
      · have whole := fun parsed => parses [] parsed
        simp only [List.append_nil, parses_again (round_sized ended sized)] at whole
        exact (whole _).mpr (parses_waiting (round_body_short shorter))
      · intro more parsed
        rw [parses more parsed, parses_again (round_sized (findCrlf_append ended more).1 sized),
          List.drop_append_of_le_length two]
        exact parses_congr (round_body_resumes shorter more)

theorem HeadLines.finishes (head : HeadLines casing bytes headers rest) :
    (∀ request, Reading.Finishes casing ⟨.headers headers, rest, some request⟩) → (Reading.start.extend bytes).Finishes casing := by
  intro finishes
  obtain ⟨request, parses⟩ := head.parses
  obtain ⟨parsed, outcome, comes, result⟩ := finishes request
  refine ⟨parsed, outcome, ?_, result⟩
  simpa only [List.append_nil] using (parses [] parsed).mpr (by simpa only [List.append_nil] using comes)

/-- A whole message, or what is none, has an outcome. -/
theorem Ends.finishes (ends : Ends casing bytes) : (Reading.start.extend bytes).Finishes casing := by
  cases ends with
  | badLine first invalid =>
      obtain ⟨response, failed⟩ := round_badLine first invalid
      exact finishes_failed failed
  | badHeader head bad =>
      refine head.finishes fun request => ?_
      obtain ⟨response, failed⟩ := round_badHeader bad
      exact finishes_failed failed
  | @badLength headers rest head ended invalid =>
      refine head.finishes fun request => ?_
      have round : Reading.round casing ⟨.headers headers, rest, some request⟩ =
          .failed (badRequest "Invalid Content-Length header") := by
        rw [round_ended ended, endOfHeaders_framing, invalid]
      exact finishes_failed round
  | @sized headers rest length head ended sized enough =>
      refine head.finishes fun request => ?_
      cases length with
      | zero =>
          have round : Reading.round casing ⟨.headers headers, rest, some request⟩ =
              .complete ⟨.headers headers, rest.drop 2, some { request with headers }⟩ := by
            rw [round_ended ended, endOfHeaders_framing, sized]
            rfl
          exact finishes_complete round rfl
      | succ length =>
          have behind : length + 1 ≤ (rest.drop 2).length := by
            rw [List.length_drop]
            omega
          rw [finishes_again (round_sized ended sized)]
          obtain ⟨body, complete⟩ := round_body_whole behind
          exact finishes_complete complete rfl
  | @chunked headers rest head ended chunked chunks =>
      refine head.finishes fun request => ?_
      have round : Reading.round casing ⟨.headers headers, rest, some request⟩ =
          .again ⟨.chunkedBody [] none [], rest.drop 2, some { request with headers }⟩ := by
        rw [round_ended ended, endOfHeaders_framing, chunked]
      rw [finishes_again round]
      exact ((chunks_end [] (rest.drop 2)).resolve_right fun never => never.1 chunks).2

/-- Cut anywhere else, or with nothing more to come, the parser loops forever. -/
theorem never_parses (pauses : ¬ Pausable casing bytes) (ends : ¬ Ends casing bytes) :
    ¬ (Reading.start.extend bytes).Parses casing parsed := by
  cases found : firstLine bytes with
  | none => exact absurd (.line (Option.map_eq_none_iff.mp found)) pauses
  | some line =>
      obtain ⟨text, lines⟩ := line
      by_cases invalid : ∀ line ∈ text, ∃ response, parseRequestLine casing line = .error response
      · exact absurd (.badLine found invalid) ends
      · push Not at invalid
        obtain ⟨line, there, valid⟩ := invalid
        cases there
        cases asks : parseRequestLine casing line with
        | error response => exact absurd asks (valid response)
        | ok request =>
            obtain ⟨headers, rest, later, stop⟩ := @headerLines_stop casing ∅ lines
            have head : HeadLines casing bytes headers rest := ⟨found, asks, later⟩
            rw [parses_again (round_requestLine found asks), later.parses]
            rcases stop with open_ | ended | bad
            · refine hangs ?_
              rw [Reading.round]
              simp only [open_]
            · cases announced : framing casing headers with
              | invalid => exact absurd (.badLength head ended announced) ends
              | sized length =>
                  by_cases enough : length + 2 ≤ rest.length
                  · exact absurd (.sized head ended announced enough) ends
                  · exact absurd (.body head ended announced (by omega)) pauses
              | chunked =>
                  have round : Reading.round casing ⟨.headers headers, rest, some request⟩ =
                      .again ⟨.chunkedBody [] none [], rest.drop 2, some { request with headers }⟩ := by
                    rw [round_ended ended, endOfHeaders_framing, announced]
                  rw [parses_again round]
                  refine ((chunks_end [] (rest.drop 2)).resolve_left ?_).2 parsed
                  exact fun whole => ends (.chunked head ended announced whole.1)
            · exact absurd (.badHeader head bad) ends

/-! The parser as a reader of the connection's stream. -/

def httpReader (casing : Casing) : Segments.Reader Reading UInt8 Outcome where
  start := .start
  reads reading segment result := ∃ parsed, (reading.extend segment).Parses casing parsed ∧ parsed.result = result
  functional := by
    intro reading segment left right one two
    obtain ⟨parsed, comes, rfl⟩ := one
    obtain ⟨other, too, rfl⟩ := two
    rw [Parses.functional comes too]

theorem ends_iff : (∃ outcome, (httpReader casing).reads .start bytes (.inr outcome)) ↔ Ends casing bytes := by
  constructor
  · intro reads
    obtain ⟨outcome, parsed, comes, result⟩ := reads
    by_contra ends
    by_cases pausable : Pausable casing bytes
    · obtain ⟨left, waits, -⟩ := pausable.pauses
      cases Parses.functional comes waits
      cases result
    · exact never_parses pausable ends comes
  · intro ends
    obtain ⟨parsed, outcome, comes, result⟩ := ends.finishes
    exact ⟨outcome, parsed, comes, result⟩

theorem pausable_iff : (∃ left, (httpReader casing).reads .start bytes (.inl left)) ↔ Pausable casing bytes := by
  constructor
  · intro reads
    obtain ⟨left, parsed, comes, result⟩ := reads
    by_contra pausable
    by_cases ends : Ends casing bytes
    · obtain ⟨other, outcome, finishes, different⟩ := ends.finishes
      cases Parses.functional comes finishes
      cases result.symm.trans different
    · exact never_parses pausable ends comes
  · intro pausable
    obtain ⟨left, waits, -⟩ := pausable.pauses
    exact ⟨left, _, waits, rfl⟩

theorem httpReader_resumes (casing : Casing) : (httpReader casing).Resumes := by
  intro bytes state reads more result
  obtain ⟨left, waits, resumes⟩ := (pausable_iff.mp ⟨state, reads⟩).pauses
  have here : (httpReader casing).reads .start bytes (.inl left) := ⟨_, waits, rfl⟩
  cases (httpReader casing).functional reads here
  simp only [httpReader, resumes]

/-- The reads that make up one message: it is whole, and cut only where the parser waits. -/
structure WellCut (casing : Casing) (message : List (List UInt8)) : Prop where
  nonempty : message ≠ []
  pauses : ∀ front back, message = front ++ back → front ≠ [] → back ≠ [] → Pausable casing front.flatten
  ends : Ends casing message.flatten

theorem WellCut.cut {message : List (List UInt8)} (wellCut : WellCut casing message) : (httpReader casing).Cut message where
  nonempty := wellCut.nonempty
  pauses := fun front back split some left => pausable_iff.mpr (wellCut.pauses front back split some left)
  ends := ends_iff.mpr wellCut.ends

end Flowd.Http
