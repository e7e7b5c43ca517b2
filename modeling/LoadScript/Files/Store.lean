import LoadScript.Files.Access
import LoadScript.Text.Fields

/-!
Files held in a value. A path is walked name by name from the working folder: each name must be looked up in a
folder, two dots lead to the folder above, and one dot or no name at all stays. Saving first makes the folders
above the file.
-/

set_option autoImplicit false
set_option relaxedAutoImplicit false

namespace LoadScript

open Text

/-- The names that lead to a place from the working folder, or from the root behind a slash. -/
abbrev Place := List String

namespace Place

/-- Holds of the root and of the working folder and those above it; they are always there. -/
def isGiven (place : Place) : Bool :=
  place == ["/"] || place.all (· == "..")

/-- The folder above a place. The root is above itself. -/
def above (place : Place) : Place :=
  if place == ["/"] then place
  else if place.all (· == "..") then ".." :: place
  else place.dropLast

def follow (place : Place) (name : String) : Place :=
  if name = "" ∨ name = "." then place
  else if name = ".." then place.above
  else place ++ [name]

def startOf (path : String) : Place :=
  if path.toList.head? = some '/' then ["/"] else []

end Place

/-- The names in a path, empty ones included. -/
def pathNames (path : String) : List String :=
  (sections '/' path.toList).map String.ofList

/-- The names in a path that lead to the folder of its last name. -/
def folderNames (path : String) : List String :=
  ((pathNames path).filter fun name => name != "" && name != ".").dropLast

inductive StoreEntry where
  | folder
  /-- A file with its text, or without one if its bytes are not UTF-8. -/
  | file (text : Option String)
  deriving DecidableEq

structure FileStore where
  entries : List (Place × StoreEntry)

namespace FileStore

def empty : FileStore := ⟨[]⟩

def entry? (store : FileStore) (place : Place) : Option StoreEntry :=
  if place.isGiven then some .folder else store.entries.lookup place

def put (store : FileStore) (place : Place) (entry : StoreEntry) : FileStore :=
  ⟨(place, entry) :: store.entries⟩

def walk (store : FileStore) : Place → List String → Except SystemFault Place
  | place, [] => .ok place
  | place, name :: rest =>
    match store.entry? place with
    | none => .error .missing
    | some (.file _) => .error .notFolder
    | some .folder => walk store (place.follow name) rest

def locate (store : FileStore) (path : String) : Except SystemFault Place :=
  if path = "" then .error .missing else store.walk (.startOf path) (pathNames path)

def lookUp (store : FileStore) (path : String) : Except SystemFault StoreEntry :=
  match store.locate path with
  | .error fault => .error fault
  | .ok place =>
    match store.entry? place with
    | none => .error .missing
    | some entry => .ok entry

def present (store : FileStore) (path : String) : Bool :=
  match store.lookUp path with
  | .error _ => false
  | .ok _ => true

def read (store : FileStore) (path : String) : Except FileFault String :=
  match store.lookUp path with
  | .error fault => .error (.system fault)
  | .ok .folder => .error (.system .isFolder)
  | .ok (.file none) => .error .notText
  | .ok (.file (some text)) => .ok text

/-- The store with the folders that some names lead to from a place. -/
def makeFolders (store : FileStore) : Place → List String → Except SystemFault FileStore
  | _, [] => .ok store
  | place, name :: rest =>
    let next := place.follow name
    match store.entry? next with
    | some .folder => makeFolders store next rest
    | some (.file _) => .error (if rest.isEmpty then .occupied else .notFolder)
    | none => makeFolders (store.put next .folder) next rest

/-- The store with the content of one file written anew. A path that ends with a slash names no file. -/
def write (store : FileStore) (path : String) (content : Option String) : Except SystemFault FileStore :=
  if path = "" then .error .missing
  else
    let names := pathNames path
    let closed := names.getLast? = some ""
    match store.walk (.startOf path) (if closed then folderNames path else names) with
    | .error fault => .error fault
    | .ok place =>
      if closed then .error .isFolder
      else match store.entry? place with
        | some .folder => .error .isFolder
        | _ => .ok (store.put place (.file content))

/-- The store after saving a file, and whether that succeeded. Folders made on the way stay. -/
def save (store : FileStore) (path : String) (content : Option String) : Except FileFault Unit × FileStore :=
  match store.makeFolders (.startOf path) (folderNames path) with
  | .error fault => (.error (.system fault), store)
  | .ok store =>
    match store.write path content with
    | .error fault => (.error (.system fault), store)
    | .ok store => (.ok (), store)

def access : FileAccess (StateM FileStore) where
  present path := fun store => (store.present path, store)
  -- the names in a store are texts, so no other path leads anywhere
  read path := fun store => match path with
    | .text path => (store.read path, store)
    | .bytes _ _ => (.error (.system .missing), store)
  save path text := fun store => store.save path (some text)

end FileStore

end LoadScript
