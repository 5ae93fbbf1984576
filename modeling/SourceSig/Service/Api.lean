import SourceSig.Extraction
import SourceSig.Report
import SourceSig.Service.Upload

/-!
# The service

The answers of the web service, as a function of the request.

* `GET /health` says that the service runs.
* `POST /signature` answers the signature of one file.
* `POST /report` answers the report on several files in the order of their paths.
-/

namespace SourceSig.Service

open Text (Bytes)

/-- A request to the service. -/
structure Request where
  method : String
  target : String
  body : Bytes

/-- An answer of the service. An answer without body has no content type. -/
structure Response where
  status : Nat
  contentType : Option String
  body : String

/-- The version that the service says it has. -/
def version : String := "0.1.0"

/-- A response without body. -/
def bare (status : Nat) : Response :=
  ⟨status, none, ""⟩

/-- A response with an object. -/
def json (status : Nat) (entries : List (String × Json)) : Response :=
  ⟨status, some "application/json", (Json.obj entries).write⟩

/-- A response with a text. -/
def plain (status : Nat) (body : String) : Response :=
  ⟨status, some "text/plain; charset=utf-8", body⟩

/-- Whether the service runs, and which parser it is set up for. -/
def health (parserCommand : String) : Response :=
  json 200 [("status", .str "healthy"), ("version", .str version),
    ("parser_command", .str parserCommand)]

/-- The complaint about a body. -/
def badBody (fault : DecodeError) : String :=
  "invalid request body: " ++ fault.message

/-- The response to a file that has no signature. -/
def rejected (status : Nat) (path message : String) (line : Option UInt32) : Response :=
  json status [("path", .str path), ("error", .str message),
    ("line", .num (.int ((line.map UInt32.toNat).getD 0)))]

/-- The response to one file. -/
def signatureOf (file : Upload) : Response :=
  match signatureText file.statements with
  | .ok signature => json 200 [("path", .str file.path), ("signature", .str signature)]
  | .error fault => rejected 422 file.path fault.message fault.line

/-- The response to a request for the signature of a file. -/
def signature (body : Bytes) : Response :=
  match Upload.parse body with
  | .ok file => signatureOf file
  | .error fault => rejected 400 "" (badBody fault) none

/-- The report on one file. -/
def reportOf (file : Upload) : Report :=
  ⟨file.path, (signatureText file.statements).mapError .unsupported⟩

/-- The reports on several files in the order of their paths. Files with one path keep their order.
-/
def reportsOf (files : List Upload) : List Report :=
  (files.map reportOf).mergeSort fun a b => decide (a.path ≤ b.path)

/-- The response to a request for the report on some files. -/
def report (body : Bytes) : Response :=
  match Upload.parseList body with
  | .ok files => plain 200 (Report.listText (reportsOf files))
  | .error fault => plain 400 (badBody fault)

/-! ## Routing -/

/-- How many bytes a body has at most. -/
def bodyLimit : Nat := 2 * 1024 * 1024

/-- The response to a body, if it is not too large. -/
def limited (body : Bytes) (respond : Bytes → Response) : Response :=
  if body.length ≤ bodyLimit then respond body
  else plain 413 "Failed to buffer the request body: length limit exceeded"

/-- The text after a scheme and an authority, where a target begins with them. -/
def afterAuthority : List Char → List Char
  | ':' :: '/' :: '/' :: rest => rest.dropWhile (· ≠ '/')
  | _ :: rest => afterAuthority rest
  | [] => []

/-- The path of a target, without query and fragment. -/
def pathOf (target : String) : String :=
  let s := target.toList.takeWhile fun c => c ≠ '?' ∧ c ≠ '#'
  if s.head? = some '/' ∨ s = ['*'] then String.ofList s
  else
    match afterAuthority s with
    | [] => "/"
    | path => String.ofList path

/-- The response of a route that takes one method. -/
def allow (method wanted : String) (response : Response) : Response :=
  if method = wanted then response else bare 405

/-- The response to a request. A preflight is answered on every path. -/
def handle (parserCommand : String) (r : Request) : Response :=
  if r.method = "OPTIONS" then bare 200
  else
    match pathOf r.target with
    | "/health" =>
      if r.method = "HEAD" then { health parserCommand with body := "" }
      else allow r.method "GET" (health parserCommand)
    | "/signature" => allow r.method "POST" (limited r.body signature)
    | "/report" => allow r.method "POST" (limited r.body report)
    | _ => bare 404

end SourceSig.Service
