import ApiContract.Exchange.Response
import ApiContract.Text.Search
import ApiContract.Text.Utf8

/-!
# Messages on the wire

Requests and responses as they travel.  A header travels when its name is a token
and its value is free of control characters.  The length of a body is known in
advance, unless it is a stream of events.
-/

namespace ApiContract.Http

/-- A request as it arrives. -/
structure WireRequest where
  method : String
  path : String
  query : String := ""
  headers : List (String × String) := []
  body : List UInt8 := []

namespace WireRequest

/-- A request for a target: a path, and a query after a question mark. -/
def ofTarget (method target : String) (headers : List (String × String))
    (body : List UInt8) : WireRequest :=
  let (target, _) := Text.splitAtFirst '#' target.toList
  let (path, query) := Text.splitAtFirst '?' target
  { method := method
    path := String.ofList path
    query := String.ofList (query.getD [])
    headers := headers.map fun (name, text) => (Text.lowered name, text)
    body := body }

end WireRequest

/-- The body of a response. -/
inductive WireBody where
  | text (text : String)
  | events (events : List StreamEvent)

/-- A response as it leaves. -/
structure WireResponse where
  status : Nat := 200
  headers : List (String × String) := []
  body : WireBody := .text ""

/-- A character of a header value that every reader understands. -/
def isVisible (char : Char) : Bool :=
  char == '\t' || (0x20 ≤ char.toNat && char.toNat < 0x7F)

/-- A text that every reader of headers understands. -/
def isVisibleText (text : String) : Bool :=
  text.toList.all isVisible

/-- A character that may stand in a header name. -/
def isTokenChar (char : Char) : Bool :=
  char.isAlphanum || "!#$%&'*+-.^_`|~".toList.contains char

/-- A text that may be a header name. -/
def isWireName (name : String) : Bool :=
  !name.isEmpty && name.toList.all isTokenChar

/-- A text that may be a header value. -/
def isWireValue (text : String) : Bool :=
  text.toList.all fun char =>
    char == '\t' || (0x20 ≤ char.toNat && char.toNat ≠ 0x7F)

namespace WireResponse

/-- The first value of a header. -/
def header? (response : WireResponse) (name : String) : Option String :=
  response.headers.lookup name

/-- The response with headers in place of those of their names. -/
def withHeaders (response : WireResponse) (headers : List (String × String)) : WireResponse :=
  let names := headers.map Prod.fst
  { response with
    headers := (response.headers.filter fun header => !names.contains header.1) ++ headers }

/-- The response with a header, unless it has one of that name. -/
def withDefault (response : WireResponse) (name text : String) : WireResponse :=
  if (response.header? name).isSome then response
  else { response with headers := response.headers ++ [(name, text)] }

/-- A page of text. -/
def page (contentType text : String) : WireResponse where
  headers := [("content-type", contentType)]
  body := .text text

end WireResponse

/-- The event as lines of a stream: its name, its data, and a blank line. -/
def eventText (event : StreamEvent) : String :=
  s!"event: {event.name}\ndata: {event.data.toJson.compact}\n\n"

/-- A name that can stand on a line of a stream. -/
def isEventName (name : String) : Bool :=
  name.toList.all fun char => char ≠ '\n' && char ≠ '\r'

namespace WireBody

/-- The text of a body, unless an event has a name that cannot be written. -/
def text? : WireBody → Option String
  | .text content => some content
  | .events listed =>
      if listed.all fun event => isEventName event.name then
        some (String.join (listed.map eventText))
      else none

/-- The number of bytes of a body, if it is known in advance. -/
def length? : WireBody → Option Nat
  | .text content => some (Text.utf8Length content)
  | .events _ => none

end WireBody

end ApiContract.Http
