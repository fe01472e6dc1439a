import ApiContract.Http.Surface
import ApiContract.Notation.Exchange

/-!
# A notation for messages on the wire

A request is written with its target and its headers as pairs; its body is text, or
bytes in base64.  A response is written with its headers in order of their names.
-/

namespace ApiContract.Notation

open Http

/-- The body of a request. -/
def readBody (json : Json) : List UInt8 :=
  match text? json "body_base64" >>= fun text => Text.readBase64 text.toList with
  | some bytes => bytes
  | none => Text.utf8Bytes ((text? json "body").getD "")

/-- A request on the wire. -/
def readWireRequest (json : Json) : WireRequest :=
  .ofTarget ((text? json "method").getD "GET") ((text? json "uri").getD "/")
    (pairs json "headers") (readBody json)

/-- Settings of a surface. -/
def readSettings (json : Json) : SurfaceSettings :=
  let defaults : SurfaceSettings := {}
  { bindAddress := (text? json "bind_addr").getD defaults.bindAddress
    apiVersion := (text? json "api_version").getD defaults.apiVersion
    title := (text? json "title").getD defaults.title
    docsEnabled := (member? json "enable_docs" >>= Json.asBool?).getD defaults.docsEnabled
    docsPath := (text? json "docs_path").getD defaults.docsPath
    bodyLimit := (nat? json "body_limit_bytes").getD defaults.bodyLimit
    timeoutSeconds := (nat? json "timeout_secs").getD defaults.timeoutSeconds }

/-- Headers in order of their names; those of one name keep their order. -/
def byName (headers : List (String × String)) : List (String × String) :=
  headers.mergeSort fun left right => left.1 ≤ right.1

/-- The notation of a response on the wire, unless its body cannot be written. -/
def writeWireResponse? (response : WireResponse) : Option (List (String × Json)) :=
  response.body.text?.map fun body =>
    [("body", .string body), ("headers", writePairs (byName response.headers)),
      ("status", .ofNat response.status)]

/-- The notation of a response on the wire whose body is shown as JSON if it is JSON,
without the length of the body. -/
def writeDecodedResponse? (response : WireResponse) : Option (List (String × Json)) :=
  response.body.text?.map fun body =>
    [("body", ((Json.read body).toOption).getD (.string body)),
      ("headers", writePairs (byName (response.headers.filter fun header =>
        header.1 ≠ "content-length"))),
      ("status", .ofNat response.status)]

end ApiContract.Notation
