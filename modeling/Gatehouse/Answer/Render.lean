import Gatehouse.Answer.Response
import Gatehouse.Upload.Source
import Gatehouse.Wire.Envelope

/-!
Backend data as an answer.

Data is answered as JSON: under `data`, beside the language, the time, and the client's session once
it is known. The key `httpcode` picks the status and the key `Content-Type` the type of the answer;
both are taken out of the data. Data that names a file under `file` is answered with the file.
-/

namespace Gatehouse.Answer

/-- Members of a JSON object. -/
abbrev Data := Entries Json

/-- Member `name` of the data, if it is a string. -/
def text? (data : Data) (name : String) : Option String :=
  (data.get? name).bind Json.asStr?

/-! ## JSON answers -/

/-- A number without a sign from a value: a whole number or a numeral. -/
def wholeNumber? : Json → Option Nat
  | .num (.int i) => if 0 ≤ i then some i.toNat else none
  | .str s => Numeral.natBelow? 0x10000000000000000 (Text.trim s).toList
  | _ => none

/-- The status that the data picks, if it is one; 200 otherwise. -/
def status (data : Data) : Nat :=
  match (data.get? "httpcode").bind wholeNumber? with
  | some code => if 100 ≤ code ∧ code ≤ 999 then code else 200
  | none => 200

def flagJson (flag : Option Int32) : Json :=
  match flag with
  | some i => .ofInt i.toInt
  | none => .null

/-- The client's session, once it has a user. -/
def session? (envelope : Envelope) : Option Json :=
  envelope.uid.map fun uid =>
    Json.object [("uid", .str uid), ("is_admin", flagJson envelope.isAdmin),
      ("session_end", flagJson envelope.sessionEnd), ("completed", flagJson envelope.completed),
      ("readonly", flagJson envelope.readonly)]

/-- The data without what picks the status and the type, and the type it picks. -/
def splitType (data : Data) : Data × Option String :=
  let data := data.erase "httpcode"
  match data.get? "Content-Type" with
  | some (.str type) => (data.erase "Content-Type", some type)
  | _ => (data, none)

/-- Answer with data as JSON. -/
def render (now : Int) (envelope : Envelope) (data : Data) : Response :=
  let (rest, type) := splitType data
  let members := [("lang", Json.str ((text? rest "lang").getD "eng")), ("timestamp", .ofInt now),
    ("data", .obj rest)]
  let body := match session? envelope with
    | some session => members ++ [("session", session)]
    | none => members
  let contentType := (type.bind Headers.value?).getD Response.jsonType
  ⟨status data, [("content-type", contentType)], (Json.object body).bytes⟩

/-! ## Downloads -/

/-- Member `name` of the data, if it is a string and not empty. -/
def nonEmpty? (data : Data) (name : String) : Option String :=
  (text? data name).filter (! ·.isEmpty)

/-- The name under which a file is saved. -/
def filename (data : Data) : String :=
  (nonEmpty? data "filename").getD "download"

/-- Whether the data holds the content of the file and not its path. -/
def isInline (data : Data) : Bool :=
  match data.get? "isbase64" with
  | some (.bool inline) => inline
  | _ => false

/-- The header that makes a client save an answer under a name. -/
def disposition (filename : String) : Bytes :=
  let quoted := String.ofList (filename.toList.map fun c => if c = '"' then '_' else c)
  (Headers.value? ("attachment; filename=\"" ++ quoted ++ "\"")).getD (utf8 "attachment")

/-- Answer with a file. -/
def download (data : Data) (content : Bytes) : Response :=
  let type :=
    ((nonEmpty? data "filetype").bind Headers.value?).getD (utf8 "application/octet-stream")
  ⟨200, [("content-type", type), ("content-disposition", disposition (filename data))], content⟩

/-- Answer with data, given the contents of the files on the gateway's host. -/
def answer (readFile : String → Option Bytes) (now : Int) (envelope : Envelope) (data : Data) :
    Response :=
  match text? data "file" with
  | none => render now envelope data
  | some file =>
    match if isInline data then some (utf8 file) else readFile file with
    | some content => download data content
    | none => Response.refusal 404 "file_not_found" (filename data ++ " is not available")

/-! ## The gateway's own answers -/

/-- Facts about the gateway's build. -/
def info : Data :=
  Entries.ofList [("version", .str "0.1.0 (dev, unknown)")]

/-- What came of an upload, as data. -/
def uploadData (summary : Upload.Summary) : Data :=
  Entries.ofList [("files", .ofNat summary.files), ("bytes", .ofNat summary.bytes),
    ("responses", .ofNat summary.responses)]

end Gatehouse.Answer
