import Almanac.FileTree
import Almanac.Path
import Almanac.Session

/-!
# Stores of templates

A store finds the template of a site by its name, in a file of the templates directory,
and keeps it: the same template is given to all who ask for it later, whatever becomes
of the file. A name is never a path.
-/

namespace Almanac

open Text

/-- A template that is given to all who ask for it, by the number under which the store
keeps it. -/
structure SharedTemplate where
  number : Nat
  template : Template
  deriving Inhabited

/-- A session that holds a shared template. -/
structure SharedSession where
  shared : SharedTemplate
  session : Session
  /-- The session reads pages by the template that it holds. -/
  template_eq : session.template = shared.template

/-- A new session with a shared template. -/
def SharedSession.start (shared : SharedTemplate) (locale : Locale) : SharedSession :=
  ⟨shared, { template := shared.template, locale }, rfl⟩

/-- The templates of sites. -/
structure Store where
  /-- The templates directory. -/
  directory : String := "resources/parsers"
  locale : Locale := .czech
  /-- The templates that have been asked for, by the name of the site. -/
  kept : Dictionary SharedTemplate := {}
  /-- The number of the next template. -/
  next : Nat := 0

namespace Store

/-! ## Files -/

/-- The path that a path leads to from a directory. -/
def joinPath (directory path : String) : String :=
  if directory = "" || beginsWith path "/" then path
  else if directory.toList.getLast? = some '/' then concat [directory, path]
  else concat [directory, "/", path]

/-- The path of the template of a site. -/
def path (s : Store) (name : String) : String := joinPath s.directory (concat [name, ".json"])

/-- Whether a name can be that of a site: as a path it ends in a name, and that is all of it. -/
def isPlainName (name : String) : Bool :=
  name != "" && Path.fileName? name == some name && name != ".."

/-- The template in the file of a site. -/
def load (s : Store) (files : FileTree) (name : String) : Except Error Template :=
  let path := s.path name
  match isPlainName name, files.read path with
  | true, .ok content =>
    match Utf8.decode? content with
    | some text => Template.ofText name (String.ofList text)
    | none => .error (.templateNotText path)
  | _, _ => .error (.templateNotFound name path)

/-! ## Templates -/

/-- Keeps a template under its name, in place of any other. -/
def insert (s : Store) (template : Template) : SharedTemplate × Store :=
  let shared := { number := s.next, template }
  (shared, { s with kept := s.kept.insert template.name shared, next := s.next + 1 })

/-- The template of a site: the one that is kept, else that in its file, which is kept
from then on. -/
def get (s : Store) (files : FileTree) (name : String) : Except Error SharedTemplate × Store :=
  match s.kept.get? name with
  | some shared => (.ok shared, s)
  | none =>
    match s.load files name with
    | .ok template =>
      let (shared, s) := s.insert template
      (.ok shared, s)
    | .error e => (.error e, s)

/-- A session for a site, which holds the template that the store gives. -/
def openSession (s : Store) (files : FileTree) (name : String) :
    Except Error SharedSession × Store :=
  let (shared, s) := s.get files name
  (shared.map (SharedSession.start · s.locale), s)

/-- A session for a site, by itself. -/
def session (s : Store) (files : FileTree) (name : String) : Except Error Session × Store :=
  let (opened, s) := s.openSession files name
  (opened.map (·.session), s)

end Store

end Almanac
