import Mathlib.Data.List.Basic
import UnifyAir.Sniffer.Collector

/-!
# UnifyAir — HTTP/1 messages

What `process_tcp_packet_http1` of `sniffer/capturer.py` reads of a packet: every packet is taken
for one message, with its first line, its headers and its body.
-/

namespace UnifyAir.Sniffer

/-! ## Texts

The methods of `str` that the parser calls, as far as it depends on them. -/

/-- `str.isspace` of a character. -/
def isSpace (c : Char) : Bool :=
  let n := c.toNat
  (0x09 ≤ n && n ≤ 0x0D) || (0x1C ≤ n && n ≤ 0x20) || n = 0x85 || n = 0xA0 || n = 0x1680 ||
    (0x2000 ≤ n && n ≤ 0x200A) || n = 0x2028 || n = 0x2029 || n = 0x202F || n = 0x205F || n = 0x3000

/-- `s.strip()`. -/
def strip (s : List Char) : List Char := ((s.dropWhile isSpace).reverse.dropWhile isSpace).reverse

/-- `s.split()`. -/
def words (s : List Char) : List (List Char) := (s.splitOnP isSpace).filter (· ≠ [])

/-- `s.split(sep, 1)`, where `sep` is in the text. -/
def partition (sep : List Char) : List Char → Option (List Char × List Char)
  | [] => none
  | c :: rest =>
    if sep <+: c :: rest then some ([], (c :: rest).drop sep.length)
    else (partition sep rest).map fun (before, after) => (c :: before, after)

/-- What remains of `s.split(sep)` in the middle of a part, with so many characters of a separator
still to be passed over. -/
def splitFrom (sep : List Char) : Nat → List Char → List Char → List (List Char)
  | _, part, [] => [part.reverse]
  | skip + 1, part, _ :: rest => splitFrom sep skip part rest
  | 0, part, c :: rest =>
    if sep <+: c :: rest then part.reverse :: splitFrom sep (sep.length - 1) [] rest
    else splitFrom sep 0 (c :: part) rest

/-- `s.split(sep)`. -/
def split (sep s : List Char) : List (List Char) := splitFrom sep 0 [] s

example : split ['\r', '\n'] ['a', '\r', '\n', '\r', '\n', 'b'] = [['a'], [], ['b']] := by decide

/-- `headers[k] = v`: a key that is there keeps its place. -/
def setItem (headers : Headers) (k v : List Char) : Headers :=
  if headers.any (·.1 = k) then headers.map fun e => if e.1 = k then (k, v) else e
  else headers ++ [(k, v)]

/-- `HTTP_METHODS`. -/
def HTTP_METHODS : List (List Char) :=
  [['G', 'E', 'T'], ['P', 'O', 'S', 'T'], ['P', 'U', 'T'], ['D', 'E', 'L', 'E', 'T', 'E'],
    ['P', 'A', 'T', 'C', 'H'], ['O', 'P', 'T', 'I', 'O', 'N', 'S'], ['H', 'E', 'A', 'D']]

/-! ## Messages

A packet is taken for one message: what is before the empty line is its head, what is behind is its
body. It is decoded to a text first, and the body is encoded again. -/

/-- What the first line is taken for. -/
inductive StartLine where
  | request (method path : List Char)
  | response (respStatus : List Char) (respReason : Option (List Char))
  | unclassified
  deriving DecidableEq, Repr

structure Http1Message where
  start : StartLine
  headers : Headers
  body : Bytes
  deriving DecidableEq, Repr

def startLine (line : List Char) : StartLine :=
  match words line with
  | first :: second :: more =>
    if first ∈ HTTP_METHODS then .request first second
    else if ['H', 'T', 'T', 'P', '/'] <+: first then
      .response second (if more = [] then none else some ([' '].intercalate more))
    else .unclassified
  | _ => .unclassified

def headerLines (lines : List (List Char)) : Headers :=
  lines.foldl (fun headers line =>
    match partition [':'] line with
    | some (k, v) => setItem headers (strip k) (strip v)
    | none => headers) []

/-- The message of a packet. -/
def Http1Message.ofPayload (payload : Bytes) : Http1Message :=
  let payloadStr := decodeUtf8 none payload
  let (headerPart, body) :=
    (partition ['\r', '\n', '\r', '\n'] payloadStr).getD (payloadStr, [])
  let lines := split ['\r', '\n'] headerPart
  { start := startLine (lines.headD [])
    headers := headerLines lines.tail
    body := body.flatMap String.utf8EncodeChar }

/-- A request that no response was seen to, under `http1_outstanding_requests`. -/
structure Http1Request where
  headers : Headers
  path : List Char
  request : Bytes
  method : List Char
  deriving DecidableEq, Repr

end UnifyAir.Sniffer
