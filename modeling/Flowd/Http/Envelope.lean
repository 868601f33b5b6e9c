import Flowd.Component.Inbound
import Flowd.Http.Segments
import Flowd.Http.Server
import Flowd.Lib.Delimited

namespace Flowd.Http

/-! The envelope of a request on REQ: what of a request can be read from it. -/

/-- The case of letters does not come with new lines, and words in small letters stay as they are. -/
structure Casing.Plain (casing : Casing) : Prop where
  toUppercase : ∀ text, '\n' ∉ text.toList → '\n' ∉ (casing.toUppercase text).toList
  transferEncoding : casing.toLowercase "transfer-encoding" = "transfer-encoding"
  chunked : casing.toLowercase "chunked" = "chunked"

/-- A parameter that can be read from a line of joined parameters. -/
def Separable (key value : String) : Prop :=
  '=' ∉ key.toList ∧ ∀ char ∈ key.toList ++ value.toList, char ≠ '&' ∧ char ≠ '\n'

/-- A request whose lines in the envelope can be told apart. -/
structure OneLined (request : HttpRequest) : Prop where
  method : '\n' ∉ request.method.toList
  path : '\n' ∉ request.path.toList
  version : '\n' ∉ request.version.toList
  params : ∀ entry ∈ request.queryParams.entries, Separable entry.1 entry.2
  bare : request.pathParams = ∅

/-- Where the parser waits for the next bytes of a connection. -/
inductive Fed (casing : Casing) : Reading → Prop where
  | start : Fed casing .start
  | extend {reading left : Reading} (fed : Fed casing reading) (segment : List UInt8)
      (parses : (reading.extend segment).Parses casing (.waiting left)) : Fed casing left

/-- A request that the parser can produce. -/
def Produced (casing : Casing) (request : HttpRequest) : Prop :=
  ∃ reading segment next, Fed casing reading ∧ (reading.extend segment).Parses casing (.complete next) ∧
    next.request = some request

/-- The method, the path, the version, the query parameters and the body are the same. -/
structure SameRequest (request other : HttpRequest) : Prop where
  method : request.method = other.method
  path : request.path = other.path
  version : request.version = other.version
  queryParams : ∀ key, request.queryParams.lookup key = other.queryParams.lookup key
  body : request.body = other.body

/-- A request as it is sent: its route tells the parameters in its path. -/
def routed (params : String → String → HashMap String String) (request : HttpRequest) : HttpRequest :=
  { request with pathParams := params request.method request.path }

/-- No other request makes the same packet. -/
def Recoverable (casing : Casing) (params : String → String → HashMap String String) (request : HttpRequest) : Prop :=
  ∀ other, Produced casing other →
    encodeRequestForReqPort fromUtf8Lossy (routed params other) =
      encodeRequestForReqPort fromUtf8Lossy (routed params request) → SameRequest request other

/-- A request with a request line, and headers and a body of any kind. -/
def FromLine (casing : Casing) (request : HttpRequest) : Prop :=
  ∃ bytes rest line head headers body, firstLine bytes = some (some line, rest) ∧
    parseRequestLine casing line = .ok head ∧ request = { head with headers, body }

section
variable {text part key value query line : String} {separator : Char} {casing : Casing} {request : HttpRequest}

theorem mem_split (member : part ∈ split text separator) :
    ∀ char ∈ part.toList, char ∈ text.toList ∧ char ≠ separator := by
  obtain ⟨chars, inside, same⟩ := List.mem_map.mp member
  subst same
  rw [String.toList_ofList]
  rw [List.splitOn_eq_splitOnP] at inside
  intro char found
  obtain ⟨whole, different⟩ := Delimited.mem_splitOnP inside char found
  exact ⟨whole, by simpa using different⟩

/-- A word has no whitespace in it, so no new line. -/
theorem mem_splitWhitespace (member : part ∈ splitWhitespace text) : '\n' ∉ part.toList := by
  obtain ⟨chars, inside, same⟩ := List.mem_map.mp member
  subst same
  rw [String.toList_ofList]
  intro found
  have different := (Delimited.mem_splitOnP (List.mem_filter.mp inside).1 _ found).2
  revert different
  decide

theorem separable_insert {params : HashMap String String} (separable : Separable key value)
    (all : ∀ entry ∈ params.entries, Separable entry.1 entry.2) :
    ∀ entry ∈ (AList.insert key value params).entries, Separable entry.1 entry.2 := by
  intro entry member
  rw [AList.entries_insert] at member
  rcases List.mem_cons.mp member with rfl | other
  · exact separable
  · exact all entry ((List.kerase_sublist _ _).subset other)

/-- What is read of a query can be joined again. -/
theorem parseQuery_separable (plain : '\n' ∉ query.toList) :
    ∀ entry ∈ (parseQuery query).entries, Separable entry.1 entry.2 := by
  unfold parseQuery
  refine List.foldlRecOn (motive := fun params : HashMap String String => ∀ entry ∈ params.entries, Separable entry.1 entry.2)
    _ _ (fun entry member => by cases member) fun params all pair here => ?_
  have chars : ∀ char ∈ pair.toList, char ≠ '&' ∧ char ≠ '\n' := by
    intro char member
    obtain ⟨whole, different⟩ := mem_split here char member
    exact ⟨different, fun same => plain (same ▸ whole)⟩
  cases cut : splitOnce pair '=' with
  | some parts =>
      obtain ⟨key, value⟩ := parts
      obtain ⟨whole, outside⟩ := splitOnce_eq_some cut
      refine separable_insert ⟨outside, fun char member => chars char ?_⟩ all
      rw [whole]
      rcases List.mem_append.mp member with left | right
      · exact List.mem_append_left _ left
      · exact List.mem_append_right _ (List.mem_cons_of_mem _ right)
  | none =>
      dsimp only
      split
      · exact all
      · exact separable_insert ⟨splitOnce_eq_none cut, fun char member => chars char (by simpa using member)⟩ all

theorem parseRequestLine_oneLined (plain : casing.Plain) (parsed : parseRequestLine casing line = .ok request) :
    OneLined request := by
  unfold parseRequestLine at parsed
  split at parsed
  · next method path version words =>
      have word (part : String) (member : part ∈ [method, path, version]) : '\n' ∉ part.toList :=
        mem_splitWhitespace (words ▸ member)
      have first := plain.toUppercase method (word method (by simp))
      have last := plain.toUppercase version (word version (by simp))
      have middle := word path (by simp)
      dsimp only at parsed
      split at parsed
      · cases cut : splitOnce path '?' with
        | none =>
            rw [cut] at parsed
            cases parsed
            exact ⟨first, middle, last, fun entry member => (by cases member), rfl⟩
        | some parts =>
            obtain ⟨front, query⟩ := parts
            obtain ⟨whole, _⟩ := splitOnce_eq_some cut
            rw [cut] at parsed
            cases parsed
            rw [whole, List.mem_append, List.mem_cons, not_or, not_or] at middle
            exact ⟨first, middle.1, last, parseQuery_separable middle.2.2, rfl⟩
      · cases parsed
  · cases parsed

variable {map other : HashMap String String}

/-- The pairs that the line of a map is joined from. -/
def pairsOf (map : HashMap String String) : List String :=
  (map.entries.map fun entry => entry.1 ++ "=" ++ entry.2).mergeSort (· ≤ ·)

theorem mem_pairsOf {pair : String} : pair ∈ pairsOf map ↔ ∃ entry ∈ map.entries, entry.1 ++ "=" ++ entry.2 = pair := by
  rw [pairsOf, List.mem_mergeSort, List.mem_map]

theorem toList_encodeMapLine (map : HashMap String String) :
    (encodeMapLine map).toList = ['&'].intercalate ((pairsOf map).map String.toList) :=
  String.toList_intercalate

theorem mem_pair {part : List Char} (separable : ∀ entry ∈ map.entries, Separable entry.1 entry.2)
    (member : part ∈ (pairsOf map).map String.toList) : part ≠ [] ∧ '&' ∉ part ∧ '\n' ∉ part := by
  obtain ⟨pair, inside, rfl⟩ := List.mem_map.mp member
  obtain ⟨entry, known, rfl⟩ := mem_pairsOf.mp inside
  have chars := (separable entry known).2
  have equals : "=".toList = ['='] := rfl
  simp only [String.toList_append, equals, List.mem_append] at chars ⊢
  refine ⟨by simp, fun found => ?_, fun found => ?_⟩
  · rcases found with (left | sign) | right
    · exact (chars _ (.inl left)).1 rfl
    · simp at sign
    · exact (chars _ (.inr right)).1 rfl
  · rcases found with (left | sign) | right
    · exact (chars _ (.inl left)).2 rfl
    · simp at sign
    · exact (chars _ (.inr right)).2 rfl

theorem encodeMapLine_oneLined (separable : ∀ entry ∈ map.entries, Separable entry.1 entry.2) :
    '\n' ∉ (encodeMapLine map).toList := by
  rw [toList_encodeMapLine]
  intro found
  rcases Delimited.mem_intercalate found with same | ⟨part, member, inside⟩
  · cases same
  · exact (mem_pair separable member).2.2 inside

/-- The line of a map tells its entries. -/
theorem lookup_of_encodeMapLine (separable : ∀ entry ∈ map.entries, Separable entry.1 entry.2)
    (separableToo : ∀ entry ∈ other.entries, Separable entry.1 entry.2) (same : encodeMapLine map = encodeMapLine other)
    (found : map.lookup key = some value) : other.lookup key = some value := by
  have parts (map : HashMap String String) (separable : ∀ entry ∈ map.entries, Separable entry.1 entry.2) :
      Delimited.parts '&' (encodeMapLine map).toList = (pairsOf map).map String.toList := by
    rw [toList_encodeMapLine]
    exact Delimited.parts_intercalate (fun part member => (mem_pair separable member).2.1)
      fun part member => (mem_pair separable member).1
  have pairs : (pairsOf map).map String.toList = (pairsOf other).map String.toList := by
    rw [← parts map separable, ← parts other separableToo, same]
  have known := AList.mem_lookup_iff.mp found
  have here : (key ++ "=" ++ value).toList ∈ (pairsOf map).map String.toList :=
    List.mem_map_of_mem (mem_pairsOf.mpr ⟨_, known, rfl⟩)
  rw [pairs] at here
  obtain ⟨pair, inside, sameChars⟩ := List.mem_map.mp here
  obtain ⟨entry, there, rfl⟩ := mem_pairsOf.mp inside
  have equals : "=".toList = ['='] := rfl
  simp only [String.toList_append, equals, List.append_assoc, List.singleton_append] at sameChars
  obtain ⟨keys, values⟩ := Delimited.cut_inj (separableToo entry there).1 (separable _ known).1 sameChars
  obtain ⟨entryKey, entryValue⟩ := entry
  rw [String.toList_inj] at keys values
  subst keys values
  exact AList.mem_lookup_iff.mpr there

/-- What is left of the parser after a round that did not fail. -/
def Round.reading : Round → Option Reading
  | .again next | .waiting next | .complete next => some next
  | .failed _ => none

variable {reading next : Reading}

theorem FromLine.with_headers (from_line : FromLine casing request) (headers : HashMap String String) :
    FromLine casing { request with headers } := by
  obtain ⟨bytes, rest, line, head, _, body, first, asks, rfl⟩ := from_line
  exact ⟨bytes, rest, line, head, headers, body, first, asks, rfl⟩

theorem FromLine.with_body (from_line : FromLine casing request) (body : List UInt8) :
    FromLine casing { request with body } := by
  obtain ⟨bytes, rest, line, head, headers, _, first, asks, rfl⟩ := from_line
  exact ⟨bytes, rest, line, head, headers, body, first, asks, rfl⟩

theorem endOfHeaders_fromLine {headers : HashMap String String} {buffer : List UInt8} {asked : Option HttpRequest}
    (from_line : ∀ request ∈ asked, FromLine casing request)
    (round : (endOfHeaders casing headers buffer asked).reading = some next) :
    ∀ request ∈ next.request, FromLine casing request := by
  cases asked with
  | none =>
      cases round
      exact from_line
  | some request =>
      have still : ∀ other ∈ some { request with headers }, FromLine casing other := by
        intro other same
        cases same
        exact (from_line request rfl).with_headers headers
      rw [endOfHeaders_framing] at round
      split at round <;> cases round <;> exact still

theorem round_fromLine (from_line : ∀ request ∈ reading.request, FromLine casing request)
    (round : (reading.round casing).reading = some next) : ∀ request ∈ next.request, FromLine casing request := by
  obtain ⟨parseState, buffer, asked⟩ := reading
  have bodies (body : List UInt8) : ∀ request ∈ asked.map (fun request => { request with body }),
      FromLine casing request := by
    intro request member
    obtain ⟨before, known, rfl⟩ := Option.map_eq_some_iff.mp member
    exact (from_line before known).with_body body
  cases parseState with
  | requestLine =>
      simp only [Reading.round] at round
      split at round
      · cases round
        exact from_line
      · next lineEnd found =>
          split at round
          · cases round
          · next line valid =>
              split at round
              · cases round
              · next head asks =>
                  cases round
                  intro request same
                  cases same
                  exact ⟨buffer, _, line, head, head.headers, head.body, by rw [firstLine, found, Option.map_some, valid], asks, rfl⟩
  | headers headers =>
      simp only [Reading.round] at round
      split at round
      · cases round
        exact from_line
      · exact endOfHeaders_fromLine from_line round
      · split at round
        · cases round
        · split at round
          · cases round
          · cases round
            exact from_line
  | body contentLength received bodyBuffer =>
      simp only [Reading.round] at round
      split at round
      · cases round
        exact bodies _
      · cases round
        exact from_line
  | chunkedBody chunks chunkSize chunkBuffer =>
      cases chunkSize with
      | none =>
          simp only [Reading.round] at round
          split at round
          · cases round
            exact from_line
          · split at round
            · cases round
            · split at round
              · cases round
              · cases round
                exact from_line
      | some size =>
          cases size with
          | zero =>
              cases round
              exact from_line
          | succ size =>
              simp only [Reading.round] at round
              split at round <;> cases round <;> exact from_line
  | trailers chunks =>
      cases round
      exact bodies _

theorem parses_fromLine {parsed : Parsed} (from_line : ∀ request ∈ reading.request, FromLine casing request)
    (parses : reading.Parses casing parsed) (left : parsed = .waiting next ∨ parsed = .complete next) :
    ∀ request ∈ next.request, FromLine casing request := by
  obtain ⟨rounds, parse⟩ := parses
  induction rounds generalizing reading with
  | zero => cases parse
  | succ rounds ih =>
      rw [Reading.parse] at parse
      cases round : reading.round casing with
      | again middle =>
          rw [round] at parse
          exact ih (round_fromLine from_line (by rw [round]; rfl)) parse
      | waiting middle =>
          rw [round] at parse
          cases parse
          rcases left with same | same <;> cases same
          exact round_fromLine from_line (by rw [round]; rfl)
      | complete middle =>
          rw [round] at parse
          cases parse
          rcases left with same | same <;> cases same
          exact round_fromLine from_line (by rw [round]; rfl)
      | failed response =>
          rw [round] at parse
          cases parse
          rcases left with same | same <;> cases same

theorem Produced.fromLine (produced : Produced casing request) : FromLine casing request := by
  obtain ⟨reading, segment, next, fed, parses, asked⟩ := produced
  have waits : ∀ request ∈ reading.request, FromLine casing request := by
    clear parses
    induction fed with
    | start =>
        intro request none
        cases none
    | @extend reading left _ segment parses ih =>
        have extended : ∀ request ∈ (reading.extend segment).request, FromLine casing request := ih
        exact parses_fromLine extended parses (.inl rfl)
  have extended : ∀ request ∈ (reading.extend segment).request, FromLine casing request := waits
  exact parses_fromLine extended parses (.inr rfl) request asked

theorem findCrlf_take {bytes : List UInt8} {lineEnd : Nat} (found : findCrlf bytes = some lineEnd) :
    findCrlf (bytes.take (lineEnd + 2)) = some lineEnd := by
  induction bytes generalizing lineEnd with
  | nil => cases found
  | cons byte rest ih =>
      rw [findCrlf] at found
      rw [List.take_succ_cons, findCrlf, List.head?_take, if_neg (Nat.succ_ne_zero _)]
      split at found
      · next both =>
          cases found
          rw [if_pos both]
      · next neither =>
          obtain ⟨before, there, rfl⟩ := Option.map_eq_some_iff.mp found
          rw [if_neg neither, ih there]
          rfl

/-- The first line of the bytes, with other bytes behind it. -/
theorem firstLine_cut {bytes rest : List UInt8} {line : Option String} (first : firstLine bytes = some (line, rest)) :
    ∃ front, ∀ more, firstLine (front ++ more) = some (line, more) := by
  obtain ⟨lineEnd, there, split⟩ := Option.map_eq_some_iff.mp first
  have bound := (findCrlf_append there []).2
  have cut : firstLine (bytes.take (lineEnd + 2)) = some (line, []) := by
    rw [firstLine, findCrlf_take there, Option.map_some, List.take_take, Nat.min_eq_left (by omega),
      List.drop_eq_nil_of_le (by rw [List.length_take]; omega), (Prod.mk.inj split).1]
  exact ⟨_, fun more => firstLine_append cut more⟩

/-- The body in chunks of one byte. -/
def bytewise (body : List UInt8) : List UInt8 :=
  body.flatMap (fun byte => intoBytes "1\r\n" ++ [byte, 13, 10]) ++ intoBytes "0\r\n"

theorem bytewise_parses (body : List UInt8) (chunks : List (List UInt8)) (request : HttpRequest) :
    ∃ next, Reading.Parses casing ⟨.chunkedBody chunks none [], bytewise body, some request⟩ (.complete next) ∧
      next.request = some { request with body := chunks.flatten ++ body } := by
  induction body generalizing chunks with
  | nil =>
      have first : firstLine (intoBytes "0\r\n") = some (some "0", []) := by decide +kernel
      have size : parseChunkSize "0" = some 0 := by decide +kernel
      refine ⟨_, (parses_again (round_size first size)).mpr ((parses_again rfl).mpr (parses_complete rfl)), ?_⟩
      rw [List.append_nil]
      rfl
  | cons byte body ih =>
      have first : firstLine (intoBytes "1\r\n") = some (some "1", []) := by decide +kernel
      have size : parseChunkSize "1" = some 1 := by decide +kernel
      have whole : bytewise (byte :: body) = intoBytes "1\r\n" ++ (byte :: 13 :: 10 :: bytewise body) := by
        simp [bytewise]
      obtain ⟨next, parses, asked⟩ := ih (chunks ++ [[byte]])
      have chunk : Reading.round casing ⟨.chunkedBody chunks (some 1) [], byte :: 13 :: 10 :: bytewise body, some request⟩ =
          .again ⟨.chunkedBody (chunks ++ [[byte]]) none [], bytewise body, some request⟩ :=
        round_chunk (by rw [List.length_cons]; omega)
      refine ⟨next, ?_, ?_⟩
      · rw [whole, parses_again (round_size (firstLine_append first _) size), List.nil_append, parses_again chunk]
        exact parses
      · simpa using asked

/-- With any body a request line makes a request. -/
theorem produced_of_fromLine (plain : casing.Plain) (from_line : FromLine casing request) (body : List UInt8) :
    ∃ headers, Produced casing { request with headers, body } := by
  obtain ⟨bytes, rest, line, head, _, _, first, asks, rfl⟩ := from_line
  obtain ⟨front, lines⟩ := firstLine_cut first
  let headers : HashMap String String := AList.insert "transfer-encoding" "chunked" ∅
  let message := intoBytes "transfer-encoding: chunked\r\n" ++ (13 :: 10 :: bytewise body)
  have second : firstLine (intoBytes "transfer-encoding: chunked\r\n") = some (some "transfer-encoding: chunked", []) := by
    decide +kernel
  have some_line : findCrlf (intoBytes "transfer-encoding: chunked\r\n") ≠ some 0 := by decide +kernel
  have header : parseHeaderLine casing "transfer-encoding: chunked" = some ("transfer-encoding", "chunked") := by
    have cut : splitOnce "transfer-encoding: chunked" ':' = some ("transfer-encoding", " chunked") := by decide +kernel
    have key : trim "transfer-encoding" = "transfer-encoding" := by decide +kernel
    have value : trim " chunked" = "chunked" := by decide +kernel
    rw [parseHeaderLine, cut, Option.map_some]
    dsimp only
    rw [key, value, plain.transferEncoding]
  have framed : framing casing headers = .chunked := by
    rw [framing, AList.lookup_insert, Option.map_some, plain.chunked, if_pos rfl]
  have ended : findCrlf (13 :: 10 :: bytewise body) = some 0 := rfl
  have third : Reading.round casing ⟨.headers headers, 13 :: 10 :: bytewise body, some head⟩ =
      .again ⟨.chunkedBody [] none [], bytewise body, some { head with headers }⟩ := by
    rw [round_ended ended, endOfHeaders_framing, framed]
    rfl
  obtain ⟨next, parses, asked⟩ := bytewise_parses body [] { head with headers }
  refine ⟨headers, .start, front ++ message, next, .start, ?_, asked⟩
  rw [parses_again (round_requestLine (lines message) asks),
    parses_again (round_header (ended_append some_line second _) (firstLine_append second _) header), List.nil_append,
    parses_again third]
  exact parses

theorem FromLine.oneLined (plain : casing.Plain) (from_line : FromLine casing request) : OneLined request := by
  obtain ⟨_, _, _, head, _, _, _, asks, rfl⟩ := from_line
  have lines := parseRequestLine_oneLined plain asks
  exact ⟨lines.method, lines.path, lines.version, lines.params, lines.bare⟩

variable {params : String → String → HashMap String String} {left right : HttpRequest}

/-- What two packets that are the same have in common. -/
theorem encode_inj (first : OneLined left) (second : OneLined right)
    (same : encodeRequestForReqPort fromUtf8Lossy (routed params left) =
      encodeRequestForReqPort fromUtf8Lossy (routed params right)) :
    left.method = right.method ∧ left.path = right.path ∧ left.version = right.version ∧
      encodeMapLine left.queryParams = encodeMapLine right.queryParams ∧ Utf8.lossy left.body = Utf8.lossy right.body := by
  have path : "\nPATH=".toList = '\n' :: "PATH=".toList := rfl
  have version : "\nVERSION=".toList = '\n' :: "VERSION=".toList := rfl
  have query : "\nQUERY=".toList = '\n' :: "QUERY=".toList := rfl
  have pathParams : "\nPATH_PARAMS=".toList = '\n' :: "PATH_PARAMS=".toList := rfl
  unfold encodeRequestForReqPort at same
  rw [intoBytes_eq, intoBytes_eq] at same
  have chars := Utf8.encode_injective same
  simp only [String.toList_append, path, version, query, pathParams, List.append_assoc, List.cons_append, routed] at chars
  have chars := List.append_cancel_left chars
  obtain ⟨sameMethod, chars⟩ := Delimited.cut_inj first.method second.method chars
  obtain ⟨samePath, chars⟩ := Delimited.cut_inj first.path second.path (List.append_cancel_left chars)
  obtain ⟨sameVersion, chars⟩ := Delimited.cut_inj first.version second.version (List.append_cancel_left chars)
  obtain ⟨sameQuery, chars⟩ := Delimited.cut_inj (encodeMapLine_oneLined first.params)
    (encodeMapLine_oneLined second.params) (List.append_cancel_left chars)
  rw [String.toList_inj] at sameMethod samePath sameVersion sameQuery
  rw [sameMethod, samePath] at chars
  have body := List.append_cancel_right (List.append_cancel_left (List.append_cancel_left
    (List.append_cancel_left chars)))
  rw [fromUtf8Lossy, fromUtf8Lossy, String.toList_ofList, String.toList_ofList] at body
  exact ⟨sameMethod, samePath, sameVersion, sameQuery, body⟩

/-- The packet of a request is that of another with a body that reads the same. -/
theorem encode_congr (headers : HashMap String String) {body : List UInt8}
    (same : Utf8.lossy body = Utf8.lossy request.body) :
    encodeRequestForReqPort fromUtf8Lossy (routed params { request with headers, body }) =
      encodeRequestForReqPort fromUtf8Lossy (routed params request) := by
  have text : fromUtf8Lossy body = fromUtf8Lossy request.body := congrArg String.ofList same
  simp only [encodeRequestForReqPort, routed, text]

/-- A route handler can read a request from its packet just if the body is text without
replacement characters. -/
theorem recoverable_iff (plain : casing.Plain) (produced : Produced casing request) :
    Recoverable casing params request ↔ ∃ text, request.body = Utf8.encode text ∧ Utf8.replacementCharacter ∉ text := by
  have from_line := produced.fromLine
  constructor
  · intro recoverable
    by_contra unreadable
    have replaced : Utf8.replacementCharacter ∈ Utf8.lossy request.body := by
      by_contra genuine
      exact unreadable ⟨_, (Utf8.encode_lossy genuine).symm, genuine⟩
    obtain ⟨front, back, cut⟩ := List.append_of_mem replaced
    have reads (byte : UInt8) (invalid : byte = 0xFE ∨ byte = 0xFF) :
        request.body = Utf8.encode front ++ byte :: Utf8.encode back := by
      have same : Utf8.lossy (Utf8.encode front ++ byte :: Utf8.encode back) = Utf8.lossy request.body := by
        have rest := Utf8.lossy_encode back []
        rw [List.append_nil] at rest
        rw [Utf8.lossy_encode, Utf8.lossy_invalid invalid, rest, cut]
        exact congrArg (front ++ Utf8.replacementCharacter :: ·) (List.append_nil back)
      obtain ⟨headers, other⟩ := produced_of_fromLine plain from_line (Utf8.encode front ++ byte :: Utf8.encode back)
      exact (recoverable _ other (encode_congr headers same)).body
    have clash := (reads 0xFE (.inl rfl)).symm.trans (reads 0xFF (.inr rfl))
    cases (List.cons.inj (List.append_cancel_left clash)).1
  · rintro ⟨text, body, genuine⟩ other otherProduced same
    have lines := from_line.oneLined plain
    have otherLines := otherProduced.fromLine.oneLined plain
    obtain ⟨method, path, version, query, lossy⟩ := encode_inj otherLines lines same
    refine ⟨method.symm, path.symm, version.symm, fun key => ?_, ?_⟩
    · refine Option.ext fun value => ⟨?_, ?_⟩
      · exact lookup_of_encodeMapLine lines.params otherLines.params query.symm
      · exact lookup_of_encodeMapLine otherLines.params lines.params query
    · have read := Utf8.lossy_encode text []
      rw [List.append_nil, ← body] at read
      have whole : Utf8.lossy other.body = text := lossy.trans (read.trans (List.append_nil text))
      rw [body, ← whole]
      exact Utf8.encode_lossy (whole ▸ genuine)

/-- The path parameters of a request's route. -/
def routeParams (routes : List RouteConfig) (method path : String) : HashMap String String :=
  ((findRoute routes ⟨method, path, ∅, ∅, "", ∅, []⟩).map Prod.snd).getD ∅

/-- What the server sends of a request is that request with the parameters of its route. -/
theorem routed_of_findRoute {routes : List RouteConfig} {index : Nat} {found : HashMap String String}
    (bare : request.pathParams = ∅) (route : findRoute routes request = some (index, found)) :
    (if found.entries.isEmpty then request else { request with pathParams := found }) =
      routed (routeParams routes) request := by
  have same : findRoute routes ⟨request.method, request.path, ∅, ∅, "", ∅, []⟩ = some (index, found) := route
  rw [routed, routeParams, same]
  split
  · next empty =>
      have none : found = ∅ := AList.ext (List.isEmpty_iff.mp empty)
      rw [none, ← bare]
      rfl
  · rfl

end

open SocketServer Transition

/-- In every run of careful calls a server for several clients forwards what they send, and a request is
recovered from its packet just if its body is text without replacement characters. -/
theorem forwards_what_was_sent (variant : Variant) (overflowChecks : Bool) (inCapacity : ServerPort → Nat)
    (outCapacity : OutPort → Nat) (now : Instant) (outpost : Outpost (component variant overflowChecks))
    (trace : List Unit)
    (run : (outpostMachine (component variant overflowChecks)).Run anyMove
      (.start SocketServer.new inCapacity outCapacity now) trace outpost)
    (careful : ∀ visit ∈ outpost.history, CarefulReading visit) (casing : Casing) (plain : casing.Plain)
    (params : String → String → HashMap String String) (request : HttpRequest) (produced : Produced casing request) :
    SocketServer.Streamed outpost.state outpost.ports ∧ (Recoverable casing params request ↔
      ∃ text, request.body = Utf8.encode text ∧ Utf8.replacementCharacter ∉ text) :=
  ⟨streams_forwarded inCapacity outCapacity now run careful, recoverable_iff plain produced⟩

def asciiCasing : Casing := ⟨toAsciiUppercase, toAsciiLowercase⟩

theorem asciiCasing_plain : asciiCasing.Plain where
  toUppercase text plain member := by
    obtain ⟨char, inside, upper⟩ : ∃ char ∈ text.toList, char.toUpper = '\n' := by
      simpa [asciiCasing, toAsciiUppercase] using member
    have same : char = '\n' := by
      unfold Char.toUpper at upper
      split at upper
      · next small =>
          have value := congrArg (fun char : Char => char.val.toNat) upper
          have low := UInt32.le_iff_toNat_le.mp small.1
          have high := UInt32.le_iff_toNat_le.mp small.2
          simp at value low high
          omega
      · exact upper
    exact plain (same ▸ inside)
  transferEncoding := by decide +kernel
  chunked := by decide +kernel

/-- There is a request with any body. -/
theorem produced_any (body : List UInt8) : ∃ request : HttpRequest, Produced asciiCasing request ∧ request.body = body := by
  have first : firstLine (intoBytes "GET / HTTP/1.1\r\n") = some (some "GET / HTTP/1.1", []) := by decide +kernel
  have valid : (parseRequestLine asciiCasing "GET / HTTP/1.1").toOption.isSome = true := by decide +kernel
  cases asks : parseRequestLine asciiCasing "GET / HTTP/1.1" with
  | error response =>
      rw [asks] at valid
      cases valid
  | ok head =>
      have from_line : FromLine asciiCasing head := ⟨_, _, _, head, head.headers, head.body, first, asks, rfl⟩
      obtain ⟨headers, produced⟩ := produced_of_fromLine asciiCasing_plain from_line body
      exact ⟨_, produced, rfl⟩

def readStart : Outpost (component TCPServer.variant true) := .start SocketServer.new (fun _ => 2) (fun _ => 1) 0

/-- A client is accepted, and two chunks are read from it. -/
def arriving (first second : List UInt8) : List (Affair (component TCPServer.variant true)) :=
  [.feed ServerPort.conf (.text "127.0.0.1:80"),
    .work (.sockets { Sockets.new with bind := some true, accept := some true, reads := [(0, .available first)] }), dispatch,
    .work (.sockets { Sockets.new with reads := [(0, .available second)] }), dispatch]

/-- Where it ends. -/
def readOut (first second : List UInt8) : Outpost (component TCPServer.variant true) :=
  (outpostMachine _).played readStart (arriving first second)

theorem forwards_what_was_sent_one :
    SocketServer.Streamed (readOut [65] [66]).state (readOut [65] [66]).ports ∧
      ∃ request, Produced asciiCasing request ∧ Recoverable asciiCasing (fun _ _ => ∅) request := by
  have run := Machine.run_played (outpostMachine (component TCPServer.variant true))
    (Machine.permits_any readStart (arriving [65] [66])) (by decide +kernel)
  obtain ⟨request, produced, body⟩ := produced_any (intoBytes "a")
  obtain ⟨streamed, recoverable⟩ := forwards_what_was_sent TCPServer.variant true _ _ _ _ _ run (by decide +kernel)
    asciiCasing asciiCasing_plain (fun _ _ => ∅) request produced
  refine ⟨streamed, request, produced, recoverable.mpr ⟨"a".toList, ?_, by decide⟩⟩
  rw [body]
  exact intoBytes_eq "a"

/-- A character comes in two reads, and a body is no text. -/
theorem forwarding_garbles :
    (¬ ∀ (variant : Variant) (overflowChecks : Bool) (inCapacity : ServerPort → Nat) (outCapacity : OutPort → Nat)
      (now : Instant) (outpost : Outpost (component variant overflowChecks)) (trace : List Unit),
      (outpostMachine (component variant overflowChecks)).Run anyMove
        (.start SocketServer.new inCapacity outCapacity now) trace outpost →
      SocketServer.Streamed outpost.state outpost.ports) ∧
    ¬ ∀ (casing : Casing) (params : String → String → HashMap String String) (request : HttpRequest), casing.Plain →
      Produced casing request → Recoverable casing params request := by
  constructor
  · intro streams
    have run := Machine.run_played (outpostMachine (component TCPServer.variant true))
      (Machine.permits_any readStart (arriving [0xC3] [0xA4])) (by decide +kernel)
    have streamed := (streams TCPServer.variant true _ _ _ _ _ run).streams 0
    revert streamed
    decide +kernel
  · intro recovers
    obtain ⟨request, produced, body⟩ := produced_any [0xFF]
    obtain ⟨text, same, genuine⟩ := (recoverable_iff asciiCasing_plain produced).mp
      (recovers asciiCasing (fun _ _ => ∅) request asciiCasing_plain produced)
    have read := Utf8.lossy_encode text []
    rw [List.append_nil, ← same, body, Utf8.lossy_invalid (.inr rfl), show Utf8.lossy [] = [] from rfl, List.append_nil] at read
    exact genuine (read ▸ List.mem_singleton_self _)

end Flowd.Http
