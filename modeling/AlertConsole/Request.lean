import AlertConsole.Byte
set_option autoImplicit false

/-!
# Requests and responses
-/

namespace AlertConsole

/-! ## Targets -/

/-- What a request is addressed to: a path and a query, behind a scheme and a host if the sender
wrote them. -/
structure Target where
  /-- a scheme and a host, as in `http://host:80` -/
  origin : String
  path : String
  /-- the query with its question mark, if there is one -/
  query : String
  deriving DecidableEq, Repr, Inhabited

namespace Target

/-- Splits a list in front of the first element that satisfies a test. -/
def cutAt (test : Char → Bool) (s : List Char) : List Char × List Char :=
  (s.takeWhile fun c => !test c, s.dropWhile fun c => !test c)

/-- The characters behind the first `://`, if there is one, and those before and in it. -/
def afterScheme? : (seen : List Char) → List Char → Option (List Char × List Char)
  | seen, ':' :: '/' :: '/' :: s => some (seen.reverse ++ [':', '/', '/'], s)
  | seen, c :: s => afterScheme? (c :: seen) s
  | _, [] => none

/-- A scheme as it is shown: the two of the web in lower case, others as they were written. -/
def schemeText (scheme : List Char) : List Char :=
  let lower := scheme.map Char.toLower
  if lower = "http://".toList ∨ lower = "https://".toList then lower else scheme

/-- The target that a text stands for.  A fragment is left out. -/
def ofText (text : String) : Target :=
  let s := (cutAt (· = '#') text.toList).1
  if s.head? = some '/' then
    let (path, query) := cutAt (· = '?') s
    ⟨"", String.ofList path, String.ofList query⟩
  else
    match afterScheme? [] s with
    | some (scheme, rest) =>
      let (host, rest) := cutAt (fun c => c = '/' || c = '?') rest
      let (path, query) := cutAt (· = '?') rest
      ⟨String.ofList (schemeText scheme ++ host), if path = [] then "/" else String.ofList path,
        String.ofList query⟩
    | none => ⟨String.ofList s, "", ""⟩

/-- The text of a target. -/
def text (t : Target) : String := t.origin ++ t.path ++ t.query

/-- Whether the path is one that deliveries can be sent to, which is any path. -/
def hasPath (t : Target) : Bool := t.path.toList.head? = some '/'

end Target

/-! ## Headers -/

/-- A header: its name and the bytes of its value. -/
structure Header where
  name : String
  value : List UInt8
  deriving DecidableEq, Repr, Inhabited

/-- An ASCII letter in lower case, any other character as it is. -/
def lowerName (name : String) : String := String.ofList (name.toList.map Char.toLower)

/-- The value of the first header of a name, which is given in lower case. -/
def firstHeader? (name : String) (headers : List Header) : Option (List UInt8) :=
  (headers.find? fun h => lowerName h.name == name).map Header.value

/-! ## Requests and responses -/

/-- A request. -/
structure Request where
  method : String
  target : Target
  headers : List Header
  body : List UInt8
  deriving DecidableEq, Repr, Inhabited

/-- The status of a response. -/
inductive Status where
  | ok
  | badRequest
  | notFound
  | methodNotAllowed
  | lengthRequired
  deriving DecidableEq, Repr, Inhabited

namespace Status

/-- The number of a status. -/
def code : Status → Nat
  | .ok => 200
  | .badRequest => 400
  | .notFound => 404
  | .methodNotAllowed => 405
  | .lengthRequired => 411

/-- The words for a status. -/
def reason : Status → String
  | .ok => "OK"
  | .badRequest => "Bad Request"
  | .notFound => "Not Found"
  | .methodNotAllowed => "Method Not Allowed"
  | .lengthRequired => "Length Required"

/-- Number and words. -/
def text (s : Status) : String := toString s.code ++ " " ++ s.reason

end Status

/-- A response.  Its headers are in the order of their names. -/
structure Response where
  status : Status
  headers : List (String × String)
  body : String
  deriving DecidableEq, Repr, Inhabited

end AlertConsole
