import Almanac.Proofs.Store.History
import Almanac.Proofs.Text.Splitting

/-!
# The files that a store reads

A text is the name at the end of itself, as a path, just when it is a site name: not empty,
without a slash, and neither a dot nor two (`fileName?_eq_self_iff`). A store looks for the
template of a site in one place, the file of its name right inside the directory of the store
(`toOption_read_joinPath`), and for any other name it looks in none (`get_of_new`).
-/

namespace Almanac

open Text

/-! ## Texts put together -/

namespace Text

theorem toList_concat_pair (a b : String) : (concat [a, b]).toList = a.toList ++ b.toList := by
  simp [concat]

theorem concat_pair_right_cancel {a b c : String} (h : concat [a, c] = concat [b, c]) : a = b := by
  have hlists := congrArg String.toList h
  rw [toList_concat_pair, toList_concat_pair, List.append_left_inj] at hlists
  exact String.toList_inj.mp hlists

end Text

/-! ## Steps and parts of a path -/

namespace Path

variable {path name : String}

theorem steps_eq (path : String) :
    steps path = (path.toList.splitOn '/').map String.ofList := by
  rw [steps, splitText]
  exact congrArg _ (splitAll_singleton '/' path.toList)

theorem steps_ne_nil (path : String) : steps path ≠ [] := by
  rw [steps_eq, ne_eq, List.map_eq_nil_iff]
  exact List.splitOn_ne_nil '/' path.toList

theorem not_mem_of_mem_steps {step : String} (h : step ∈ steps path) : '/' ∉ step.toList := by
  rw [steps_eq] at h
  obtain ⟨part, hpart, rfl⟩ := List.mem_map.mp h
  rw [String.toList_ofList]
  exact not_mem_of_mem_splitOn hpart

theorem steps_of_not_mem (h : '/' ∉ name.toList) : steps name = [name] := by
  rw [steps_eq, List.splitOn_eq_singleton h, List.map_singleton, String.ofList_toList]

theorem beginsWith_slash_iff : beginsWith path "/" = true ↔ path.toList.head? = some '/' := by
  have hslash : "/".toList = ['/'] := by decide
  rw [beginsWith, hslash]
  generalize path.toList = cs
  cases cs with
  | nil => decide
  | cons d rest =>
    rw [List.isPrefixOf_cons_cons, List.isPrefixOf_nil_left, Bool.and_true, beq_iff_eq,
      List.head?_cons, Option.some_inj, eq_comm]

theorem beginsWith_slash_of_not_mem (h : '/' ∉ name.toList) : beginsWith name "/" = false := by
  rw [Bool.eq_false_iff, ne_eq, beginsWith_slash_iff]
  exact fun hhead => h (List.mem_of_mem_head? hhead)

/-- The names in a path are its steps that are neither passed over nor lead back. -/
theorem name_mem_parts_iff :
    PathPart.name name ∈ parts path ↔
      name ∈ steps path ∧ name ≠ "" ∧ name ≠ "." ∧ name ≠ ".." := by
  have hfront : PathPart.name name ∉ front path := by
    unfold front
    split
    · simp
    · split <;> simp
  rw [parts, List.mem_append, or_iff_right hfront, List.mem_filterMap]
  constructor
  · rintro ⟨step, hstep, hpart⟩
    unfold part? at hpart
    split at hpart
    · cases hpart
    · next hshown =>
      split at hpart
      · cases hpart
      · next hback =>
        cases hpart
        simp only [Bool.or_eq_true, decide_eq_true_eq, not_or] at hshown
        exact ⟨hstep, hshown.1, hshown.2, hback⟩
  · rintro ⟨hstep, hempty, hdot, hdots⟩
    exact ⟨name, hstep, by simp [part?, hempty, hdot, hdots]⟩

end Path

/-! ## Site names -/

/-- A text that can name a site: the name of a file, and no path. -/
def IsSiteName (name : String) : Prop :=
  name ≠ "" ∧ '/' ∉ name.toList ∧ name ≠ "." ∧ name ≠ ".."

instance (name : String) : Decidable (IsSiteName name) :=
  inferInstanceAs (Decidable (_ ∧ _ ∧ _ ∧ _))

/-- A site name is one part, as a path. -/
theorem IsSiteName.parts {name : String} (h : IsSiteName name) :
    Path.parts name = [.name name] := by
  obtain ⟨hempty, hslash, hdot, hdots⟩ := h
  simp [Path.parts, Path.front, Path.steps_of_not_mem hslash,
    Path.beginsWith_slash_of_not_mem hslash, Path.part?, hempty, hdot, hdots]

/-- Steps that are passed over leave the name at the end of a path, but not the path itself:
what is its own name has no steps to pass over. -/
theorem Path.fileName?_eq_self_iff {name : String} :
    fileName? name = some name ↔ IsSiteName name := by
  constructor
  · intro h
    unfold fileName? at h
    split at h
    · next text hlast =>
      cases h
      obtain ⟨hstep, hempty, hdot, hdots⟩ :=
        name_mem_parts_iff.mp (List.mem_of_getLast? hlast)
      exact ⟨hempty, not_mem_of_mem_steps hstep, hdot, hdots⟩
    · cases h
  · intro h
    rw [fileName?, h.parts]
    rfl

/-- A store looks for the templates of site names. -/
theorem Store.isPlainName_iff {name : String} : isPlainName name = true ↔ IsSiteName name := by
  simp only [isPlainName, Bool.and_eq_true, bne_iff_ne, beq_iff_eq, Path.fileName?_eq_self_iff]
  constructor
  · rintro ⟨⟨-, h⟩, -⟩
    exact h
  · intro h
    exact ⟨⟨h.1, h⟩, h.2.2.2⟩

/-- The file of a site has a site name too. -/
theorem IsSiteName.file {name : String} (h : IsSiteName name) :
    IsSiteName (concat [name, ".json"]) := by
  have hlength : 5 < (concat [name, ".json"]).toList.length := by
    have hpos : 0 < name.toList.length :=
      List.length_pos_iff.mpr fun hnil => h.1 (String.toList_inj.mp hnil)
    rw [toList_concat_pair, List.length_append]
    have : ".json".toList.length = 5 := by decide
    omega
  have hne : ∀ short : String, short.toList.length ≤ 5 → concat [name, ".json"] ≠ short := by
    intro short hshort heq
    rw [← heq] at hshort
    omega
  have hslash : '/' ∉ (concat [name, ".json"]).toList := by
    rw [toList_concat_pair, List.mem_append, not_or]
    exact ⟨h.2.1, by decide⟩
  exact ⟨hne "" (by decide), hslash, hne "." (by decide), hne ".." (by decide)⟩

/-! ## A file right inside a directory -/

section

variable {directory file : String}

/-- The path of a file is that of its directory, a slash unless it ends in one or is empty, and the
file. -/
theorem Store.joinPath_cases (directory : String) (hfile : IsSiteName file) :
    (directory = "" ∧ joinPath directory file = file) ∨
      (∃ front, directory.toList = front ++ ['/'] ∧
        (joinPath directory file).toList = front ++ '/' :: file.toList) ∨
      (directory ≠ "" ∧
        (joinPath directory file).toList = directory.toList ++ '/' :: file.toList) := by
  have hrelative := Path.beginsWith_slash_of_not_mem hfile.2.1
  by_cases hdirectory : directory = ""
  · exact .inl ⟨hdirectory, by simp [joinPath, hdirectory]⟩
  · right
    simp only [joinPath, hdirectory, hrelative, decide_false, Bool.or_self, Bool.false_eq_true,
      if_false]
    split
    · next hslash =>
      obtain ⟨front, hfront⟩ := List.getLast?_eq_some_iff.mp hslash
      refine .inl ⟨front, hfront, ?_⟩
      rw [toList_concat_pair, hfront, List.append_assoc, List.singleton_append]
    · exact .inr ⟨hdirectory, by simp [concat]⟩

namespace Path

/-- The path of a file begins where that of its directory begins. -/
theorem beginsWith_slash_joinPath (directory : String) (hfile : IsSiteName file) :
    beginsWith (Store.joinPath directory file) "/" = beginsWith directory "/" := by
  rcases Store.joinPath_cases directory hfile with ⟨rfl, hjoined⟩ | ⟨front, hfront, hjoined⟩ |
      ⟨hdirectory, hjoined⟩
  · rw [hjoined, beginsWith_slash_of_not_mem hfile.2.1]
    decide
  · rw [Bool.eq_iff_iff, beginsWith_slash_iff, beginsWith_slash_iff, hjoined, hfront]
    cases front <;> rfl
  · obtain ⟨c, rest, hcons⟩ := List.ne_nil_iff_exists_cons.mp
      fun hnil => hdirectory (String.toList_inj.mp (hnil.trans String.toList_empty.symm))
    rw [Bool.eq_iff_iff, beginsWith_slash_iff, beginsWith_slash_iff, hjoined, hcons]
    rfl

/-- A file adds one step to the path of a directory, in place of the empty step behind a slash
at the end. -/
theorem steps_joinPath (directory : String) (hfile : IsSiteName file) :
    ∃ before, steps (Store.joinPath directory file) = before ++ [file] ∧
      (steps directory = before ∨ steps directory = before ++ [""]) := by
  have hsteps := steps_of_not_mem hfile.2.1
  rcases Store.joinPath_cases directory hfile with ⟨rfl, hjoined⟩ | ⟨front, hfront, hjoined⟩ |
      ⟨-, hjoined⟩
  · exact ⟨[], hjoined ▸ hsteps, .inr (steps_of_not_mem (by simp))⟩
  · refine ⟨(front.splitOn '/').map String.ofList, ?_, .inr ?_⟩
    · rw [steps_eq, hjoined, List.splitOn_append_cons_self, List.map_append, ← steps_eq, hsteps]
    · rw [steps_eq, hfront, List.splitOn_append_cons_self, List.splitOn_nil, List.map_append]
      rfl
  · refine ⟨steps directory, ?_, .inl rfl⟩
    rw [steps_eq, hjoined, List.splitOn_append_cons_self, List.map_append, ← steps_eq,
      ← steps_eq, hsteps]

/-- The parts of the path of a file are those of its directory, and its name. -/
theorem parts_joinPath (directory : String) (hfile : IsSiteName file) :
    parts (Store.joinPath directory file) = parts directory ++ [.name file] := by
  obtain ⟨before, hjoined, hsteps⟩ := steps_joinPath directory hfile
  have hslash := beginsWith_slash_joinPath directory hfile
  obtain ⟨hempty, -, hdot, hdots⟩ := hfile
  have hpart : part? file = some (.name file) := by simp [part?, hempty, hdot, hdots]
  have hskipped : part? "" = none := rfl
  have hhead : (before ++ [file]).head? = some "." ↔ (steps directory).head? = some "." := by
    cases before with
    | nil =>
      rcases hsteps with h | h
      · exact absurd h (steps_ne_nil directory)
      · simp [h, hdot]
    | cons first rest => rcases hsteps with h | h <;> simp [h]
  have hfront : front (Store.joinPath directory file) = front directory := by
    simp only [front, hslash, hjoined, hhead]
  have hparts : (steps directory).filterMap part? = before.filterMap part? := by
    rcases hsteps with h | h
    · rw [h]
    · rw [h, List.filterMap_append, List.filterMap_cons_none hskipped, List.filterMap_nil,
        List.append_nil]
  rw [parts, parts, hfront, hjoined, hparts, List.filterMap_append, List.append_assoc,
    List.filterMap_cons_some hpart, List.filterMap_nil]

end Path

/-! ## Files of a tree -/

namespace FileTree

variable {t : FileTree}

/-- The place of the directory that a path leads to; the empty path leads to the working
directory. -/
def directoryAt? (t : FileTree) (path : String) : Option (List String) :=
  match t.follow path with
  | .ok place => if t.entryAt? place = some .directory then some place else none
  | .error _ => none

/-- The content of a file right inside a directory. -/
def child? (t : FileTree) (directory file : String) : Option (List UInt8) :=
  (t.directoryAt? directory).bind fun place =>
    match t.entryAt? (place ++ [file]) with
    | some (.file content) => some content
    | _ => none

theorem directoryAt?_eq_some_iff {path : String} {place : List String} :
    t.directoryAt? path = some place ↔
      t.follow path = .ok place ∧ t.entryAt? place = some .directory := by
  unfold directoryAt?
  cases t.follow path with
  | error e => simp
  | ok reached =>
    simp only [Except.ok.injEq, Option.ite_none_right_eq_some, Option.some_inj]
    exact ⟨fun ⟨hentry, heq⟩ => ⟨heq, heq ▸ hentry⟩, fun ⟨heq, hentry⟩ => ⟨heq ▸ hentry, heq⟩⟩

/-- A file right inside a directory is found at the place of the directory. -/
theorem child?_eq_some_iff {content : List UInt8} :
    t.child? directory file = some content ↔ ∃ place, t.directoryAt? directory = some place ∧
      t.entryAt? (place ++ [file]) = some (.file content) := by
  rw [child?, Option.bind_eq_some_iff]
  refine exists_congr fun place => and_congr_right fun _ => ?_
  split
  · next found hfound => rw [hfound, Option.some_inj, Option.some_inj, Entry.file.injEq]
  · next hother => simpa using hother content

theorem followStep_eq_ok_iff {place names : List String} {step : String} :
    t.followStep place step = .ok names ↔ t.entryAt? place = some .directory ∧
      if step = "" ∨ step = "." then place = names
      else if step = ".." then place.dropLast = names
      else (t.entryAt? (place ++ [step])).isSome ∧ place ++ [step] = names := by
  unfold followStep
  split
  · next hentry =>
    simp only [hentry, true_and, Bool.or_eq_true, decide_eq_true_eq]
    split
    · exact Except.ok.injEq place names ▸ Iff.rfl
    · split
      · exact Except.ok.injEq place.dropLast names ▸ Iff.rfl
      · cases t.entryAt? (place ++ [step]) <;> simp
  · next content hentry => simp [hentry]
  · next hentry => simp [hentry]

/-- The empty step behind a slash at the end of a path leads to where the path leads, if that
is a directory. -/
theorem followStep_empty {place names : List String} :
    t.followStep place "" = .ok names ↔ t.entryAt? place = some .directory ∧ place = names := by
  rw [followStep_eq_ok_iff, if_pos (.inl rfl)]

/-- A step that is the name of a file leads from a directory to what is right inside it. -/
theorem followStep_file {place names : List String} (hfile : IsSiteName file) :
    t.followStep place file = .ok names ↔ t.entryAt? place = some .directory ∧
      (t.entryAt? (place ++ [file])).isSome ∧ place ++ [file] = names := by
  obtain ⟨hempty, -, hdot, hdots⟩ := hfile
  rw [followStep_eq_ok_iff, if_neg (not_or.mpr ⟨hempty, hdot⟩), if_neg hdots]

/-- The last step of a path is followed from where the others lead. -/
theorem followSteps_append {start names : List String} {steps : List String} {step : String} :
    (steps ++ [step]).foldlM t.followStep start = .ok names ↔
      ∃ place, steps.foldlM t.followStep start = .ok place ∧
        t.followStep place step = .ok names := by
  have hlast : ∀ place, [step].foldlM t.followStep place = t.followStep place step := by
    intro place
    rw [List.foldlM_cons]
    cases t.followStep place step <;> rfl
  rw [List.foldlM_append]
  cases steps.foldlM t.followStep start with
  | error e =>
    simp only [reduceCtorEq, false_and, exists_false, iff_false]
    exact fun h => (by cases h)
  | ok place =>
    simp only [Except.ok.injEq, exists_eq_left']
    exact Eq.congr_left (hlast place)

/-- The empty path leads to the working directory. -/
theorem follow_empty {names : List String} :
    t.follow "" = .ok names ↔ t.entryAt? t.working = some .directory ∧ t.working = names := by
  have hsteps : Path.steps "" = [] ++ [""] := Path.steps_of_not_mem (by simp)
  have hstart : t.start "" = t.working := rfl
  rw [follow, hstart, hsteps, followSteps_append]
  refine Iff.trans ?_ followStep_empty
  constructor
  · rintro ⟨place, hplace, hstep⟩
    cases hplace
    exact hstep
  · exact fun hstep => ⟨_, rfl, hstep⟩

/-- What is read is the content of the file that the path leads to. -/
theorem read_eq_ok_iff {path : String} {content : List UInt8} :
    t.read path = .ok content ↔
      ∃ names, t.follow path = .ok names ∧ t.entryAt? names = some (.file content) := by
  rw [read]
  by_cases hempty : path = ""
  · subst hempty
    refine ⟨fun h => (by cases h), ?_⟩
    -- the empty path is not read, and leads to a directory
    rintro ⟨names, hnames, hcontent⟩
    obtain ⟨hentry, rfl⟩ := follow_empty.mp hnames
    rw [hentry] at hcontent
    cases hcontent
  · rw [if_neg hempty]
    cases t.follow path with
    | error e =>
      simp only [reduceCtorEq, false_and, exists_false, iff_false]
      exact fun h => (by cases h)
    | ok names =>
      simp only [Except.ok.injEq, exists_eq_left', bind, Except.bind]
      rcases t.entryAt? names with - | (found | -)
      · simp [throw, throwThe, MonadExceptOf.throw]
      · simp [pure, Except.pure]
      · simp [throw, throwThe, MonadExceptOf.throw]

/-- A file is found where the path of its directory leads to a directory that holds it. -/
theorem follow_joinPath {names : List String} (hfile : IsSiteName file) :
    t.follow (Store.joinPath directory file) = .ok names ↔
      ∃ place, t.follow directory = .ok place ∧ t.followStep place file = .ok names := by
  have hstart : t.start (Store.joinPath directory file) = t.start directory := by
    rw [start, start, Path.beginsWith_slash_joinPath directory hfile]
  rw [follow, follow, hstart]
  obtain ⟨before, hjoined, hsteps | hsteps⟩ := Path.steps_joinPath directory hfile
  · rw [hjoined, hsteps, followSteps_append]
  · rw [hjoined, hsteps, followSteps_append]
    simp only [followSteps_append, followStep_empty, followStep_file hfile]
    constructor
    · rintro ⟨place, hplace, hentry, hnames⟩
      exact ⟨place, ⟨place, hplace, hentry, rfl⟩, hentry, hnames⟩
    · rintro ⟨place, ⟨_, hplace, -, rfl⟩, hfile⟩
      exact ⟨_, hplace, hfile⟩

theorem toOption_eq_some_iff {ε α : Type} {x : Except ε α} {a : α} :
    x.toOption = some a ↔ x = .ok a := by
  cases x with
  | error e => exact ⟨nofun, nofun⟩
  | ok b => exact ⟨fun h => by cases h; rfl, fun h => by cases h; rfl⟩

/-- What is read by the path of a file in a directory is the file right inside it. -/
theorem toOption_read_joinPath (t : FileTree) (directory : String) (hfile : IsSiteName file) :
    (t.read (Store.joinPath directory file)).toOption = t.child? directory file := by
  refine Option.ext fun content => ?_
  simp only [toOption_eq_some_iff, read_eq_ok_iff, child?_eq_some_iff, directoryAt?_eq_some_iff,
    follow_joinPath hfile, followStep_file hfile]
  constructor
  · rintro ⟨names, ⟨place, hplace, hentry, -, rfl⟩, hcontent⟩
    exact ⟨place, ⟨hplace, hentry⟩, hcontent⟩
  · rintro ⟨place, ⟨hplace, hentry⟩, hcontent⟩
    exact ⟨_, ⟨place, hplace, hentry, hcontent ▸ rfl, rfl⟩, hcontent⟩

end FileTree

end

/-! ## What a store answers for a new name -/

namespace Store

/-- The template in the content of a file. -/
def templateOf (s : Store) (name : String) (content : List UInt8) : Except Error Template :=
  match Utf8.decode? content with
  | some text => Template.ofText name (String.ofList text)
  | none => .error (.templateNotText (s.path name))

variable {s : Store} {name : String}

/-- Nothing is loaded for what is no site name. -/
theorem load_of_not_isSiteName (h : ¬ IsSiteName name) (files : FileTree) :
    s.load files name = .error (.templateNotFound name (s.path name)) := by
  have hplain : isPlainName name = false := by
    rw [← Bool.not_eq_true, isPlainName_iff]
    exact h
  simp only [load, hplain]

/-- The template of a site is loaded from the file of its name right inside the directory. -/
theorem load_of_isSiteName (h : IsSiteName name) (files : FileTree) :
    s.load files name =
      match files.child? s.directory (concat [name, ".json"]) with
      | some content => s.templateOf name content
      | none => .error (.templateNotFound name (s.path name)) := by
  have hread : (files.read (s.path name)).toOption = _ :=
    FileTree.toOption_read_joinPath files s.directory h.file
  rw [load, isPlainName_iff.mpr h, ← hread]
  cases files.read (s.path name) <;> rfl

/-- A name that nothing is kept for is answered by what is loaded. -/
theorem get_of_load (hnew : s.kept.get? name = none) (files : FileTree) :
    (s.get files name).1 = (s.load files name).map (⟨s.next, ·⟩) := by
  rcases get_cases s files name with ⟨shared, hkept, -⟩ | ⟨-, template, hload, hget⟩ |
      ⟨-, e, hload, hget⟩
  · rw [hnew] at hkept
    cases hkept
  · rw [hget, hload]
    rfl
  · rw [hget, hload]
    rfl

theorem get_of_load_error (hnew : s.kept.get? name = none) {files : FileTree} {e : Error}
    (h : s.load files name = .error e) : s.get files name = (.error e, s) := by
  simp only [get, hnew, h]

theorem locale_get (s : Store) (files : FileTree) (name : String) :
    (s.get files name).2.locale = s.locale := by
  rcases get_cases s files name with ⟨_, -, hget⟩ | ⟨-, _, -, hget⟩ | ⟨-, _, -, hget⟩ <;>
    rw [hget]
  rfl

/-- A session is opened with the template that the store gives. -/
theorem openSession_eq (s : Store) (files : FileTree) (name : String) :
    (s.openSession files name).1 = (s.get files name).1.map (SharedSession.start · s.locale) := by
  rw [← locale_get s files name]
  rfl

/-- The paths of two sites are the same, up to steps that are passed over, only if the sites
are. -/
theorem eq_of_parts_path {other : String} (hname : IsSiteName name) (hother : IsSiteName other)
    (h : Path.parts (s.path other) = Path.parts (s.path name)) : other = name := by
  rw [path, path, Path.parts_joinPath _ hname.file, Path.parts_joinPath _ hother.file] at h
  have hlast := List.append_cancel_left h
  simp only [List.cons.injEq, PathPart.name.injEq, and_true] at hlast
  exact concat_pair_right_cancel hlast

/-- **Only files right inside the directory of a store are read.** A site name that nothing is kept
for is answered from its own file right inside the directory, which belongs to no other site name;
any other name is not found, whatever files there are. -/
theorem get_of_new (s : Store) (name : String) (hnew : s.kept.get? name = none) :
    (∀ files, (s.openSession files name).1 =
        (s.get files name).1.map (SharedSession.start · s.locale)) ∧
      (¬ IsSiteName name → ∀ files,
        s.get files name = (.error (.templateNotFound name (s.path name)), s)) ∧
      (IsSiteName name →
        Path.parts (s.path name) =
            Path.parts s.directory ++ [.name (concat [name, ".json"])] ∧
          (∀ other, IsSiteName other →
            Path.parts (s.path other) = Path.parts (s.path name) → other = name) ∧
          ∀ files,
            (files.read (s.path name)).toOption =
                files.child? s.directory (concat [name, ".json"]) ∧
              (s.get files name).1 =
                match files.child? s.directory (concat [name, ".json"]) with
                | some content => (s.templateOf name content).map (⟨s.next, ·⟩)
                | none => .error (.templateNotFound name (s.path name))) := by
  refine ⟨fun files => openSession_eq s files name, fun h files => ?_, fun h => ⟨?_, ?_, ?_⟩⟩
  · exact get_of_load_error hnew (load_of_not_isSiteName h files)
  · exact Path.parts_joinPath s.directory h.file
  · exact fun other hother => eq_of_parts_path h hother
  · refine fun files => ⟨FileTree.toOption_read_joinPath files s.directory h.file, ?_⟩
    rw [get_of_load hnew, load_of_isSiteName h]
    cases files.child? s.directory (concat [name, ".json"]) <;> rfl

/-- A directory with a template, beside the one that is worked in. -/
def sites : FileTree where
  entries := [(["home"], .directory), (["srv"], .directory), (["srv", "tpl"], .directory),
    (["srv", "tpl", "....json"], .file [123, 125])]
  working := ["home"]

theorem child?_sites : sites.child? "/srv/tpl" "....json" = some [123, 125] := by
  have hfollow : sites.follow "/srv/tpl" = .ok ["srv", "tpl"] := by cbv
  rw [FileTree.child?, FileTree.directoryAt?, hfollow]
  rfl

/-- The step back leads out of the working directory, to the root. -/
theorem child?_sites_back : sites.child? "../srv/tpl/" "....json" = some [123, 125] := by
  have hsteps : Path.steps "../srv/tpl/" = ["..", "srv", "tpl", ""] := by cbv
  have hfollow : sites.follow "../srv/tpl/" = .ok ["srv", "tpl"] := by
    rw [FileTree.follow, hsteps]
    rfl
  rw [FileTree.child?, FileTree.directoryAt?, hfollow]
  rfl

theorem templateOf_dots (s : Store) : s.templateOf "..." [123, 125] = .ok { name := "..." } := by
  have hdecoded : Utf8.decode? [123, 125] = some ['{', '}'] := by cbv
  simp only [templateOf, hdecoded]
  cbv

/-- Three dots are the name of a site, and its template is found by the path of the directory from
the root and by that from the working directory; a name with a dot behind a slash is none, though
its path ends in a name. -/
theorem get_of_new_dots :
    (∀ files, ({ directory := "/srv/tpl" } : Store).get files "a/." =
        (.error (.templateNotFound "a/." "/srv/tpl/a/..json"), { directory := "/srv/tpl" })) ∧
      (({ directory := "/srv/tpl" } : Store).get sites "...").1 = .ok ⟨0, { name := "..." }⟩ ∧
      (({ directory := "../srv/tpl/" } : Store).get sites "...").1 = .ok ⟨0, { name := "..." }⟩ := by
  have hpath : ({ directory := "/srv/tpl" } : Store).path "a/." = "/srv/tpl/a/..json" := by
    decide +kernel
  have hsite : IsSiteName "..." := by decide +kernel
  have hfile : concat ["...", ".json"] = "....json" := by decide +kernel
  have hrejected := (get_of_new { directory := "/srv/tpl" } "a/." rfl).2.1 (by decide +kernel)
  have hroot := (((get_of_new { directory := "/srv/tpl" } "..." rfl).2.2 hsite).2.2 sites).2
  have hback := (((get_of_new { directory := "../srv/tpl/" } "..." rfl).2.2 hsite).2.2 sites).2
  rw [hpath] at hrejected
  rw [hfile, child?_sites] at hroot
  rw [hfile, child?_sites_back] at hback
  refine ⟨hrejected, hroot.trans ?_, hback.trans ?_⟩
  · simp only [templateOf_dots]
    rfl
  · simp only [templateOf_dots]
    rfl

end Store

end Almanac
