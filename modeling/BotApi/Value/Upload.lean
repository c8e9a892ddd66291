import BotApi.Value.Special

/-!
# Files to upload

Octets, streams and files can be uploaded, and so can a record with a field `read`, for it looks like an open file.
Each is made a file with a name: the one that was given, else the last name of its path or of what it is called, else
`file`.
-/

namespace BotApi

/-- The name that a value is as a name. -/
def StreamName.ofValue (v : Value) : StreamName :=
  if v.isVoid then .unnamed
  else match v with
    | .text s => .text s
    | .bytes content => .octets content
    | _ => .other

namespace InputFile

/-- Why no file can be made of what can be read. -/
inductive NamingFault
  /-- What is called by no text and by no octets cannot name a file. -/
  | streamName
  /-- A record cannot be asked for what it is or for what it is called. -/
  | obstructed (o : Obstruction)
  deriving DecidableEq

/-- The first name that is not empty, or `file`. -/
def chooseName (given : Option String) (own : FileName) : FileName :=
  let name := match given with
    | some g => if g = "" then own else g
    | none => own
  if name.isEmpty then "file" else name

/-- A file of octets. -/
def ofOctets (content : List UInt8) (given : Option String) : InputFile :=
  ⟨.octets content, chooseName given ""⟩

/-- A file at a path. -/
def ofPath (text : String) (given : Option String) : InputFile :=
  let path := PosixPath.ofText text
  ⟨.path path, chooseName given path.name⟩

/-- The last part of what something is called. -/
def ownName : StreamName → Except NamingFault FileName
  | .unnamed => .ok ""
  | .text name => .ok (PosixPath.baseName name)
  | .octets name => .ok (.octets (PosixPath.baseOctets name))
  | .other => .error .streamName

/-- A file of what can be read. What that is called matters only if no other name is given. -/
def ofReader (source : FileSource) (called : Except NamingFault StreamName) (given : Option String) :
    Except NamingFault InputFile :=
  match given.filter (· ≠ "") with
  | some g => .ok ⟨source, g⟩
  | none => (fun own => ⟨source, chooseName none own⟩) <$> (called >>= ownName)

/-- A file of a stream. -/
def ofStream (s : Stream) (given : Option String) : Except NamingFault InputFile :=
  ofReader (.stream s) (.ok s.name) given

/-- What a record is called: what its field `name` holds, if it has one. -/
def recordName (fields : List (FieldName × Value)) : Except Obstruction StreamName :=
  match Value.field? "name" fields with
  | some v => .ok (.ofValue v)
  | none => (fun _ => .unnamed) <$> Value.need .attributes fields

/-- A file of a record. Before its name it is asked for its class, and whether it is a path. -/
def ofRecord (type : String) (fields : List (FieldName × Value)) (given : Option String) :
    Except NamingFault InputFile :=
  match (Value.record type fields).classObstruction? with
  | some o => .error (.obstructed o)
  | none =>
    match Value.need .path fields with
    | .error o => .error (.obstructed o)
    | .ok () => ofReader (.record type) ((recordName fields).mapError .obstructed) given

/-- What a file holds, as far as it is known without opening a path. -/
def content? (f : InputFile) : Option (List UInt8) :=
  match f.source with
  | .octets content => some content
  | .stream s => some s.content
  | .path _ | .record _ => none

end InputFile

namespace Value

/-- Whether a record with these fields can be asked for what `read` is, and has such a field. -/
def hasRead (fields : List (FieldName × Value)) : Bool := !lacks .access fields && (field? "read" fields).isSome

/-- Whether the value can be uploaded. -/
def isBinary : Value → Bool
  | .file _ | .bytes _ | .bytearray _ | .stream _ => true
  | .record _ fields => hasRead fields
  | _ => false

/-- The file that a value uploads which is made for that: a file, octets, or a stream. -/
def upload? : Value → Option (Except InputFile.NamingFault InputFile)
  | .file f => some (.ok f)
  | .bytes content | .bytearray content => some (.ok (InputFile.ofOctets content none))
  | .stream s => some (InputFile.ofStream s none)
  | _ => none

/-- The file that is made of a value where a file is asked for. -/
def toFile? : Value → Option (Except InputFile.NamingFault InputFile)
  | .record type fields => if hasRead fields then some (InputFile.ofRecord type fields none) else none
  | v => v.upload?

theorem toFile?_of_upload? {v : Value} {x : Except InputFile.NamingFault InputFile} (h : v.upload? = some x) :
    v.toFile? = some x := by
  cases v with
  | record type fields => cases h
  | _ => exact h

end Value

end BotApi
