import JarLauncher.Machine.Procedure

/-!
A download in one go. The document is collected in a hidden file beside its destination and takes the
destination's place only when it is complete and not empty; otherwise the hidden file is removed.
-/

namespace JarLauncher.Download

open Machine

/-- The hidden name that the process `pid` uses while it prepares the file `name`. -/
def hiddenName (name : String) (pid : Nat) : String :=
  s!".{name}.{pid}.tmp"

/-- Where a document is collected before it takes its place. -/
def stagingPath (destination : Path) (pid : Nat) : Path :=
  let name := (destination.fileName?.map Utf8.decodeLossy).getD "artifact"
  destination.withFileName (Utf8.encode (hiddenName name pid))

/-- Writes the body of a response to a file, and makes sure of what was written. -/
def store (url : String) (staging : Path) (response : Response) : Attempt Unit := do
  if let some parent := staging.parent? then
    faultAt parent (.request (.createDirectories parent))
  faultAt staging (.request (.createFile staging))
  response.chunks.forM fun chunk => faultAt staging (.request (.append staging chunk))
  if let .broken message := response.bodyEnd then
    throw (.fetchNetwork url message)
  faultAt staging (.request (.flush staging))
  faultAt staging (.request (.sync staging))
  let size ← faultAt staging (.request (.size staging))
  if size = 0 then throw .fetchEmptyPayload

/-- Collects a document in the file `staging`. -/
def collect (url : String) (staging : Path) : Attempt Unit := do
  match ← ExceptT.lift (.request (.get url)) with
  | .failed message => throw (.fetchNetwork url message)
  | .response response =>
    if response.status = 404 then throw (.fetchNotFound url)
    if !response.isSuccess then throw (.fetchRemoteError response.status response.statusText)
    store url staging response

/-- Downloads a document to its destination, or leaves the destination as it was. -/
def fetch (pid : Nat) (url : String) (destination : Path) : Attempt Path := do
  let staging := stagingPath destination pid
  tryCatch
    (do
      collect url staging
      faultAt destination (.request (.replace staging destination))
      return destination)
    fun error => do
      let _ ← ExceptT.lift (.request (.discard staging))
      throw error

end JarLauncher.Download
