import Flowd.Component.Droppers

namespace Flowd.Http

/-! The incremental parser of HTTPServer: what it makes of the bytes of one connection. -/

/-- `to_uppercase` and `to_lowercase` of the standard library. -/
structure Casing where
  toUppercase : String → String
  toLowercase : String → String

structure HttpRequest where
  method : String
  path : String
  queryParams : HashMap String String
  pathParams : HashMap String String
  version : String
  headers : HashMap String String
  body : List UInt8
deriving DecidableEq

structure HttpResponse where
  statusCode : Nat
  statusText : String
  headers : HashMap String String
  body : List UInt8
deriving DecidableEq

/-- `Trailers` comes with headers that nothing fills, and nothing makes a `Complete`. -/
inductive HttpParseState where
  | requestLine
  | headers (headers : HashMap String String)
  | body (contentLength received : Nat) (buffer : List UInt8)
  | chunkedBody (chunks : List (List UInt8)) (chunkSize : Option Nat) (buffer : List UInt8)
  | trailers (chunks : List (List UInt8))
deriving DecidableEq

/-- The fields of `ConnectionState::ReadingRequest`. -/
structure Reading where
  parseState : HttpParseState
  buffer : List UInt8
  request : Option HttpRequest
deriving DecidableEq

def badRequest (body : String) : HttpResponse := ⟨400, "Bad Request", ∅, intoBytes body⟩

def findCrlf : List UInt8 → Option Nat
  | [] => none
  | byte :: rest => if byte = 13 ∧ rest.head? = some 10 then some 0 else (findCrlf rest).map (· + 1)

/-- The text before the first of the characters, and the text behind it. -/
def splitOnce (text : String) (separator : Char) : Option (String × String) :=
  (text.toList.findIdx? (· == separator)).map fun position =>
    (.ofList (text.toList.take position), .ofList (text.toList.drop (position + 1)))

/-- `split_whitespace` -/
def splitWhitespace (text : String) : List String :=
  ((text.toList.splitOnP isWhitespace).filter (· ≠ [])).map String.ofList

def digitOf (char : Char) : Nat :=
  if '0' ≤ char ∧ char ≤ '9' then char.toNat - '0'.toNat
  else if 'a' ≤ char ∧ char ≤ 'z' then char.toNat - 'a'.toNat + 10
  else if 'A' ≤ char ∧ char ≤ 'Z' then char.toNat - 'A'.toNat + 10
  else 36

/-- `usize::from_str_radix` on 64 bits: an optional plus and digits that do not overflow. -/
def fromStrRadix (radix : Nat) (text : String) : Option Nat :=
  let digits := match text.toList with
    | '+' :: rest => rest
    | digits => digits
  if digits.isEmpty then none
  else digits.foldlM (fun value char =>
    let next := value * radix + digitOf char
    if digitOf char < radix ∧ next < 2 ^ 64 then some next else none) 0

section
variable (casing : Casing)

def parseHeaderLine (line : String) : Option (String × String) :=
  (splitOnce line ':').map fun (key, value) => (casing.toLowercase (trim key), trim value)

def parseChunkSize (hex : String) : Option Nat := fromStrRadix 16 (trim hex)

def parseQuery (query : String) : HashMap String String :=
  (split query '&').foldl (fun params pair =>
    match splitOnce pair '=' with
    | some (key, value) => AList.insert key value params
    | none => if pair.isEmpty then params else AList.insert pair "" params) ∅

/-- The request that the text of a request line begins, or the error response. -/
def parseRequestLine (line : String) : Except HttpResponse HttpRequest :=
  match splitWhitespace line with
  | [method, path, version] =>
      let version := casing.toUppercase version
      if startsWith version "HTTP/1." then
        let (path, queryParams) := match splitOnce path '?' with
          | some (path, query) => (path, parseQuery query)
          | none => (path, ∅)
        .ok ⟨casing.toUppercase method, path, queryParams, ∅, version, ∅, []⟩
      else
        .error ⟨505, "HTTP Version Not Supported", ∅, intoBytes "Only HTTP/1.0 and HTTP/1.1 are supported"⟩
  | _ => .error (badRequest "Invalid request line format")

/-- What a round of the parser's loops comes to. -/
inductive Round where
  | again (reading : Reading)
  | waiting (reading : Reading)
  | complete (reading : Reading)
  | failed (response : HttpResponse)

/-- What follows the empty line behind the headers. -/
def endOfHeaders (headers : HashMap String String) (buffer : List UInt8) : Option HttpRequest → Round
  | none => .again ⟨.headers headers, buffer, none⟩
  | some request =>
      let request := { request with headers }
      if (headers.lookup "transfer-encoding").map casing.toLowercase = some "chunked" then
        .again ⟨.chunkedBody [] none [], buffer, some request⟩
      else
        match headers.lookup "content-length" with
        | none => .complete ⟨.headers headers, buffer, some request⟩
        | some text =>
            match fromStrRadix 10 text with
            | none => .failed (badRequest "Invalid Content-Length header")
            | some 0 => .complete ⟨.headers headers, buffer, some request⟩
            | some length => .again ⟨.body length 0 [], buffer, some request⟩

/-- A round of the loop over the parse states, or of one of the two loops in it, which are left for the
same state when more data is needed.  Only a round that waits or completes the request leaves the loop. -/
def Reading.round (reading : Reading) : Round :=
  let { parseState, buffer, request } := reading
  match parseState with
  | .requestLine =>
      match findCrlf buffer with
      | none => .waiting reading
      | some lineEnd =>
          match fromUtf8 (buffer.take lineEnd) with
          | none => .failed (badRequest "Invalid UTF-8 in request line")
          | some line =>
              match parseRequestLine casing line with
              | .error response => .failed response
              | .ok request => .again ⟨.headers ∅, buffer.drop (lineEnd + 2), some request⟩
  | .headers headers =>
      match findCrlf buffer with
      -- `while let` ends, and the outer loop comes back to the same headers
      | none => .again reading
      | some 0 => endOfHeaders casing headers (buffer.drop 2) request
      | some lineEnd =>
          match fromUtf8 (buffer.take lineEnd) with
          | none => .failed (badRequest "Invalid UTF-8 in header line")
          | some line =>
              match parseHeaderLine casing line with
              | none => .failed (badRequest "Invalid header line format")
              | some (key, value) =>
                  .again ⟨.headers (AList.insert key value headers), buffer.drop (lineEnd + 2), request⟩
  | .body contentLength received bodyBuffer =>
      let toRead := min (contentLength - received) buffer.length
      let bodyBuffer := bodyBuffer ++ buffer.take toRead
      let next : Reading := ⟨.body contentLength (received + toRead) bodyBuffer, buffer.drop toRead, request⟩
      if 0 < toRead ∧ contentLength ≤ received + toRead then
        .complete { next with request := request.map fun request => { request with body := bodyBuffer } }
      else .waiting next
  | .chunkedBody chunks (some 0) _ => .again ⟨.trailers chunks, buffer, request⟩
  | .chunkedBody chunks (some size) chunkBuffer =>
      let toRead := min size buffer.length
      let chunkBuffer := chunkBuffer ++ buffer.take toRead
      let buffer := buffer.drop toRead
      if 0 < toRead ∧ size ≤ chunkBuffer.length then
        let buffer := if buffer.take 2 = [13, 10] then buffer.drop 2 else buffer
        .again ⟨.chunkedBody (chunks ++ [chunkBuffer]) none [], buffer, request⟩
      -- `break` leaves the inner loop only
      else .again ⟨.chunkedBody chunks (some size) chunkBuffer, buffer, request⟩
  | .chunkedBody chunks none chunkBuffer =>
      match findCrlf buffer with
      | none => .again reading
      | some lineEnd =>
          match fromUtf8 (buffer.take lineEnd) with
          | none => .failed (badRequest "Invalid UTF-8 in chunk size")
          | some line =>
              match parseChunkSize line with
              | none => .failed (badRequest "Invalid chunk size")
              | some size => .again ⟨.chunkedBody chunks (some size) chunkBuffer, buffer.drop (lineEnd + 2), request⟩
  | .trailers chunks =>
      .complete { reading with request := request.map fun request => { request with body := chunks.flatten } }

/-- What is left of the connection's parser when the loop is done. -/
inductive Parsed where
  | waiting (reading : Reading)
  | complete (reading : Reading)
  | failed (response : HttpResponse)
deriving DecidableEq

/-- `while !parsing_complete`, none if the rounds do not suffice. -/
def Reading.parse : Nat → Reading → Option Parsed
  | 0, _ => none
  | rounds + 1, reading =>
      match reading.round casing with
      | .again next => next.parse rounds
      | .waiting next => some (.waiting next)
      | .complete next => some (.complete next)
      | .failed response => some (.failed response)

/-- The loop ends, and leaves this of the parser. -/
def Reading.Parses (reading : Reading) (parsed : Parsed) : Prop := ∃ rounds, reading.parse casing rounds = some parsed

end

namespace Reading

/-- A connection that was just accepted, or that is kept alive. -/
def start : Reading := ⟨.requestLine, [], none⟩

/-- The buffer with what `read` has delivered. -/
def extend (reading : Reading) (segment : List UInt8) : Reading :=
  { reading with buffer := reading.buffer ++ segment }

end Reading

variable {casing : Casing} {reading : Reading} {response : HttpResponse}

theorem parseRequestLine_error {line : String} (error : parseRequestLine casing line = .error response) :
    response.statusCode = 400 ∨ response.statusCode = 505 := by
  unfold parseRequestLine at error
  split at error
  · dsimp only at error
    split at error
    · cases error
    · cases error
      exact .inr rfl
  · cases error
    exact .inl rfl

theorem endOfHeaders_failed {headers : HashMap String String} {buffer : List UInt8} {request : Option HttpRequest}
    (failed : endOfHeaders casing headers buffer request = .failed response) : response.statusCode = 400 := by
  unfold endOfHeaders at failed
  split at failed
  · cases failed
  · dsimp only at failed
    split at failed
    · cases failed
    · split at failed
      · cases failed
      · split at failed
        · cases failed
          rfl
        · cases failed
        · cases failed

/-- The parser answers with 400 or 505. -/
theorem round_failed (failed : reading.round casing = .failed response) :
    response.statusCode = 400 ∨ response.statusCode = 505 := by
  obtain ⟨parseState, buffer, request⟩ := reading
  cases parseState with
  | requestLine =>
      simp only [Reading.round] at failed
      split at failed
      · cases failed
      · split at failed
        · cases failed
          exact .inl rfl
        · split at failed
          · next error =>
              cases failed
              exact parseRequestLine_error error
          · cases failed
  | headers headers =>
      simp only [Reading.round] at failed
      split at failed
      · cases failed
      · exact .inl (endOfHeaders_failed failed)
      · split at failed
        · cases failed
          exact .inl rfl
        · split at failed
          · cases failed
            exact .inl rfl
          · cases failed
  | body contentLength received bodyBuffer =>
      simp only [Reading.round] at failed
      split at failed <;> cases failed
  | chunkedBody chunks chunkSize chunkBuffer =>
      cases chunkSize with
      | none =>
          simp only [Reading.round] at failed
          split at failed
          · cases failed
          · split at failed
            · cases failed
              exact .inl rfl
            · split at failed
              · cases failed
                exact .inl rfl
              · cases failed
      | some size =>
          cases size with
          | zero => cases failed
          | succ size =>
              simp only [Reading.round] at failed
              split at failed <;> cases failed
  | trailers chunks => cases failed

theorem parses_failed (parses : reading.Parses casing (.failed response)) :
    response.statusCode = 400 ∨ response.statusCode = 505 := by
  obtain ⟨rounds, parse⟩ := parses
  induction rounds generalizing reading with
  | zero => cases parse
  | succ rounds ih =>
      cases round : reading.round casing with
      | again next =>
          rw [Reading.parse, round] at parse
          exact ih parse
      | waiting next => simp [Reading.parse, round] at parse
      | complete next => simp [Reading.parse, round] at parse
      | failed error =>
          simp only [Reading.parse, round, Option.some.injEq, Parsed.failed.injEq] at parse
          exact parse ▸ round_failed round

end Flowd.Http
