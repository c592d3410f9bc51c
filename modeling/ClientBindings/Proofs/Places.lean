import ClientBindings.Disk
import ClientBindings.Proofs.Fallible
import ClientBindings.Proofs.Table

/-!
# Places — what stands where after files are written

The place that a path leads to depends on folders alone, and neither writing a file nor making a
folder takes a folder away.  So a path keeps its place, and what a disk holds after some files are
written is told by the files: at each place stands the text that was last written to it.

* `Disk.Extends` — a disk with all folders of another; `place_of_extends` — paths keep their places;
* `Disk.Takes` — a disk that a file can be written to; `write_eq_ok` — what writing it changes;
* `files_of_make`, `make_child_eq_ok` — making folders leaves files alone, and when one more is made;
* `exists_text_of_place` — the place of a file ends like the name of the file;
* `Disk.Holds` — a disk holds what was written, and what was there before.
-/

namespace ClientBindings

deriving instance DecidableEq for Disk.Entry, Disk

namespace Disk

variable {d e : Disk} {p place : Path} {text : String}

/-! ## Folders -/

theorem find?_eq_folder_iff : d.find? p = some .folder ↔ p.isBase = true ∨ p ∈ d.folders := by
  unfold find?
  by_cases there : p.isBase = true ∨ p ∈ d.folders
  · simp [there]
  · simp [there]

theorem find?_eq_file_iff : d.find? p = some (.file text) ↔
    d.find? p ≠ some .folder ∧ d.files.get? p.text = some text := by
  unfold find?
  by_cases there : p.isBase = true ∨ p ∈ d.folders
  · simp [there]
  · simp [there]

theorem find?_eq_none_iff : d.find? p = none ↔
    d.find? p ≠ some .folder ∧ d.files.get? p.text = none := by
  unfold find?
  by_cases there : p.isBase = true ∨ p ∈ d.folders
  · simp [there]
  · simp [there]

/-- A disk that has all folders of another. -/
def Extends (e d : Disk) : Prop :=
  ∀ q, d.find? q = some .folder → e.find? q = some .folder

theorem extends_of_folders_eq (same : e.folders = d.folders) : e.Extends d := by
  intro q hq
  rw [find?_eq_folder_iff, same]
  exact find?_eq_folder_iff.mp hq

theorem Extends.trans {f : Disk} (hf : f.Extends e) (he : e.Extends d) : f.Extends d := by
  intro q hq
  exact hf q (he q hq)

theorem find?_ne_folder_of_folders_eq (same : e.folders = d.folders) (h : d.find? p ≠ some .folder) :
    e.find? p ≠ some .folder := by
  intro folder
  have more : d.Extends e := extends_of_folders_eq same.symm
  exact h (more p folder)

theorem enter_eq_ok {here next : Path} {part : String} :
    d.enter here part = .ok next ↔ d.find? (here.below part) = some .folder ∧ here.below part = next := by
  unfold enter
  split <;> simp_all

theorem follow_of_extends (more : e.Extends d) {here : Path} {parts : List String}
    (h : d.follow here parts = .ok place) : e.follow here parts = .ok place := by
  induction parts generalizing here with
  | nil => exact h
  | cons part rest ih =>
    by_cases back : part = ".."
    · simp only [follow, back, if_true] at h ⊢
      exact ih h
    · simp only [follow, back, if_false] at h ⊢
      cases hnext : d.enter here part with
      | error fault => simp [hnext] at h
      | ok next =>
        obtain ⟨folder, same⟩ := enter_eq_ok.mp hnext
        have entered : e.enter here part = .ok next := enter_eq_ok.mpr ⟨more _ folder, same⟩
        simp only [hnext, entered] at h ⊢
        exact ih h

/-- A path keeps its place on a disk with more folders. -/
theorem place_of_extends (more : e.Extends d) (h : d.place p = .ok place) :
    e.place p = .ok place := by
  obtain ⟨u, hchecked, h⟩ := Except.bind_eq_ok.mp h
  refine Except.bind_eq_ok.mpr ⟨u, hchecked, ?_⟩
  cases hlast : p.parts.getLast? with
  | none =>
    simp only [hlast] at h ⊢
    exact h
  | some name =>
    by_cases back : name = ".."
    · simp only [hlast, back, if_true] at h ⊢
      exact follow_of_extends more h
    · simp only [hlast, back, if_false] at h ⊢
      obtain ⟨folder, hfolder, h⟩ := Except.bind_eq_ok.mp h
      exact Except.bind_eq_ok.mpr ⟨folder, follow_of_extends more hfolder, h⟩

/-! ## Writing -/

/-- A disk that a file can be written to: its path leads to a place at which no folder stands. -/
def Takes (d : Disk) (p : Path) : Prop :=
  ∃ place, d.place p = .ok place ∧ d.find? place ≠ some .folder

instance (d : Disk) (p : Path) : Decidable (d.Takes p) :=
  inferInstanceAs (Decidable (∃ place, d.place p = .ok place ∧ d.find? place ≠ some .folder))

theorem write_eq_ok :
    d.write p text = .ok e ↔ ∃ place, d.place p = .ok place ∧ d.find? place ≠ some .folder ∧
      e = { d with files := d.files.insert place.text text } := by
  unfold write
  rw [Except.bind_eq_ok]
  refine exists_congr fun place => and_congr_right fun _ => ?_
  cases d.find? place with
  | none => simp [pure, Except.pure, eq_comm]
  | some entry =>
    cases entry with
    | folder => simp
    | file old => simp [pure, Except.pure, eq_comm]

theorem read_eq_ok :
    d.read p = .ok text ↔ ∃ place, d.place p = .ok place ∧ d.find? place = some (.file text) := by
  unfold read
  rw [Except.bind_eq_ok]
  refine exists_congr fun place => and_congr_right fun _ => ?_
  cases d.find? place with
  | none => simp
  | some entry =>
    cases entry with
    | folder => simp
    | file old => simp [pure, Except.pure]

/-- Writing at a place where nothing stands leaves what can be read. -/
theorem read_of_write {q target : Path} {new : String} (h : d.read q = .ok text)
    (written : d.write p new = .ok e) (hplace : d.place p = .ok target)
    (nothing : d.find? target = none) : e.read q = .ok text := by
  obtain ⟨place, hq, file⟩ := read_eq_ok.mp h
  obtain ⟨place', hplace', _, after⟩ := write_eq_ok.mp written
  have same : place' = target := Except.ok.inj (hplace'.symm.trans hplace)
  have folders : e.folders = d.folders := by rw [after]
  have there : e.place q = .ok place := place_of_extends (extends_of_folders_eq folders) hq
  obtain ⟨free, found⟩ := find?_eq_file_iff.mp file
  have vacant := (find?_eq_none_iff.mp nothing).2
  have other : place.text ≠ place'.text := by
    intro equal
    rw [equal, same, vacant] at found
    simp at found
  have kept : e.files.get? place.text = some text := by
    have files : e.files = Table.insert place'.text new d.files := congrArg Disk.files after
    rw [files, Table.get?_insert, if_neg other]
    exact found
  exact read_eq_ok.mpr ⟨place, there, find?_eq_file_iff.mpr
    ⟨find?_ne_folder_of_folders_eq folders free, kept⟩⟩

theorem exists_write (h : d.Takes p) (text : String) : ∃ e, d.write p text = .ok e := by
  obtain ⟨place, hplace, free⟩ := h
  exact ⟨_, write_eq_ok.mpr ⟨place, hplace, free, rfl⟩⟩

theorem folders_of_write (h : d.write p text = .ok e) : e.folders = d.folders := by
  obtain ⟨place, _, _, rfl⟩ := write_eq_ok.mp h
  rfl

theorem takes_of_folders_eq (same : e.folders = d.folders) (h : d.Takes p) : e.Takes p := by
  obtain ⟨place, hplace, free⟩ := h
  exact ⟨place, place_of_extends (extends_of_folders_eq same) hplace,
    find?_ne_folder_of_folders_eq same free⟩

/-! ## Making folders -/

theorem files_of_makeFrom {made : Bool} {here : Path} {parts : List String}
    (h : d.makeFrom made here parts = .ok e) : e.files = d.files := by
  induction parts generalizing d made here with
  | nil =>
    have same : d = e := Except.ok.inj h
    rw [same]
  | cons part rest ih =>
    simp only [makeFrom] at h
    split at h
    · exact ih h
    · split at h
      · exact ih h
      · simp at h
      · split at h
        · simp at h
        · have kept := ih h
          exact kept

theorem make_eq_ok : d.make p = .ok e ↔
    checked p = .ok () ∧ d.makeFrom false p.start p.parts = .ok e := by
  unfold make
  rw [Except.bind_eq_ok]
  constructor
  · rintro ⟨u, hchecked, h⟩
    exact ⟨hchecked, h⟩
  · rintro ⟨hchecked, h⟩
    exact ⟨(), hchecked, h⟩

theorem files_of_make (h : d.make p = .ok e) : e.files = d.files :=
  files_of_makeFrom (make_eq_ok.mp h).2

theorem mem_folders_of_makeFrom {made : Bool} {here q : Path} {parts : List String}
    (h : d.makeFrom made here parts = .ok e) (hq : q ∈ d.folders) : q ∈ e.folders := by
  induction parts generalizing d made here with
  | nil =>
    have same : d = e := Except.ok.inj h
    exact same ▸ hq
  | cons part rest ih =>
    simp only [makeFrom] at h
    split at h
    · exact ih h hq
    · split at h
      · exact ih h hq
      · simp at h
      · split at h
        · simp at h
        · exact ih h (List.mem_cons_of_mem _ hq)

theorem find?_of_makeFrom {made : Bool} {here q : Path} {parts : List String}
    (h : d.makeFrom made here parts = .ok e) (hq : d.find? q = some .folder) :
    e.find? q = some .folder := by
  by_cases there : q.isBase = true ∨ q ∈ d.folders
  · have kept : q.isBase = true ∨ q ∈ e.folders := there.imp_right (mem_folders_of_makeFrom h)
    simp [find?, kept]
  · simp [find?, there] at hq

theorem extends_of_make (h : d.make p = .ok e) : e.Extends d := by
  intro q hq
  exact find?_of_makeFrom (make_eq_ok.mp h).2 hq

/-- A folder is made only where nothing stands, so a file stays a file. -/
theorem find?_file_of_makeFrom {made : Bool} {here q : Path} {parts : List String}
    (h : d.makeFrom made here parts = .ok e) (file : d.find? q = some (.file text)) :
    e.find? q = some (.file text) := by
  induction parts generalizing d made here with
  | nil =>
    have same : d = e := Except.ok.inj h
    rw [← same]
    exact file
  | cons part rest ih =>
    simp only [makeFrom] at h
    split at h
    · exact ih h file
    · split at h
      · exact ih h file
      · simp at h
      · next nothing =>
        split at h
        · simp at h
        · refine ih h ?_
          have other : q ≠ here.below part := by
            rintro rfl
            rw [nothing] at file
            simp at file
          simpa [find?, other] using file

theorem find?_file_of_make {q : Path} (h : d.make p = .ok e) (file : d.find? q = some (.file text)) :
    e.find? q = some (.file text) :=
  find?_file_of_makeFrom (make_eq_ok.mp h).2 file

/-- Behind folders that are there, folders are made as if from the last of them. -/
theorem makeFrom_append_of_follow {made : Bool} {here : Path} {parts rest : List String}
    (h : d.follow here parts = .ok place) :
    d.makeFrom made here (parts ++ rest) = d.makeFrom made place rest := by
  induction parts generalizing here with
  | nil =>
    have same : here = place := Except.ok.inj h
    rw [same]
    rfl
  | cons part others ih =>
    by_cases back : part = ".."
    · simp only [follow, back, if_true] at h
      simp only [List.cons_append, makeFrom, back, if_true]
      exact ih h
    · simp only [follow, back, if_false] at h
      cases hnext : d.enter here part with
      | error fault => simp [hnext] at h
      | ok next =>
        obtain ⟨folder, rfl⟩ := enter_eq_ok.mp hnext
        simp only [hnext] at h
        simp only [List.cons_append, makeFrom, back, if_false, folder]
        exact ih h

/-- Making one folder in a folder that is there. -/
theorem make_child_eq_ok {here : Path} {name : String} (there : d.follow p.start p.parts = .ok here)
    (single : Path.ofText name = ⟨"", [name]⟩) (forward : name ≠ "..") :
    d.make (p.child name) = .ok e ↔ checked (p.child name) = .ok () ∧
      (d.find? (here.below name) = some .folder ∧ e = d ∨
        d.find? (here.below name) = none ∧ isLong name = false ∧
          e = { d with folders := here.below name :: d.folders }) := by
  have child : p.child name = ⟨p.root, p.parts ++ [name]⟩ := by simp [Path.child, Path.join, single]
  rw [make_eq_ok, child]
  refine and_congr_right fun _ => ?_
  have tail : d.makeFrom false (Path.start ⟨p.root, p.parts ++ [name]⟩) (p.parts ++ [name]) =
      d.makeFrom false here [name] := makeFrom_append_of_follow there
  simp only [tail, makeFrom, forward, if_false]
  cases d.find? (here.below name) with
  | none =>
    by_cases long : isLong name = true
    · simp [long]
    · simp only [long]
      simpa using eq_comm
  | some entry =>
    cases entry with
    | folder => simpa using eq_comm
    | file old => simp

/-! ## Names of files -/

/-- A path with a name at its end leads to a place of that name, in the folder that the rest of the
path leads to. -/
theorem exists_below_of_place {name : String} (last : p.parts.getLast? = some name)
    (forward : name ≠ "..") (h : d.place p = .ok place) :
    ∃ here, d.follow p.start p.parts.dropLast = .ok here ∧ place = here.below name := by
  obtain ⟨u, _, h⟩ := Except.bind_eq_ok.mp h
  simp only [last, forward, if_false] at h
  obtain ⟨here, followed, h⟩ := Except.bind_eq_ok.mp h
  split at h
  · simp at h
  · exact ⟨here, followed, (Except.ok.inj h).symm⟩

/-- What the text of a path below a folder starts with depends on the folder alone. -/
theorem exists_front_below (here : Path) :
    ∃ before, ∀ name, (here.below name).text = before ++ name := by
  have filled (name : String) :
      ¬((here.below name).root = "" ∧ (here.below name).parts = []) := by
    simp [Path.below]
  cases hparts : here.parts with
  | nil =>
    refine ⟨here.root, fun name => ?_⟩
    rw [Path.text, if_neg (filled name)]
    simp [Path.below, Text.joined, hparts]
  | cons part rest =>
    refine ⟨here.root ++ ("/".intercalate (part :: rest) ++ "/"), fun name => ?_⟩
    rw [Path.text, if_neg (filled name)]
    unfold Path.below Text.joined
    rw [hparts, String.intercalate_append_of_ne_nil (by simp) (by simp),
      String.intercalate_singleton]
    simp only [String.append_assoc]

theorem exists_text_below (here : Path) (name : String) :
    ∃ before, (here.below name).text = before ++ name := by
  obtain ⟨before, text⟩ := exists_front_below here
  exact ⟨before, text name⟩

/-- The last piece of a text takes what is appended without a separator. -/
theorem splitOn_append {sep : Char} (cs : List Char) {ds : List Char} (h : sep ∉ ds) :
    ∃ init last, (cs ++ ds).splitOn sep = init ++ [last ++ ds] := by
  induction cs with
  | nil => exact ⟨[], [], List.splitOn_eq_singleton h⟩
  | cons c rest ih =>
    obtain ⟨init, last, hpieces⟩ := ih
    rw [List.cons_append, List.splitOn_cons_eq_if_modifyHead, hpieces]
    by_cases same : c = sep
    · exact ⟨[] :: init, last, by simp [same]⟩
    · cases init with
      | nil => exact ⟨[], c :: last, by simp [same]⟩
      | cons first others => exact ⟨(c :: first) :: others, last, by simp [same]⟩

/-- The ending of the names of sources. -/
def extension : String := ".java"

theorem append_extension_ne {start name : String} (short : name.length < 5) :
    start ++ extension ≠ name := by
  intro same
  have lengths : start.length + extension.length = name.length := by
    rw [← String.length_append, same]
  have five : extension.length = 5 := by decide
  omega

/-- Slashes in a name lead to other folders, and leave its end alone. -/
theorem exists_getLast?_parts_ofText (name : String) :
    ∃ start, (Path.ofText (name ++ extension)).parts.getLast? = some (start ++ extension) := by
  have plain : '/' ∉ extension.toList := by decide
  obtain ⟨init, last, hpieces⟩ := splitOn_append name.toList plain
  have joined : String.ofList (last ++ extension.toList) = String.ofList last ++ extension := by
    simp
  refine ⟨String.ofList last, ?_⟩
  have filled : (String.ofList last ++ extension) ≠ "" := append_extension_ne (by decide)
  have named : (String.ofList last ++ extension) ≠ "." := append_extension_ne (by decide)
  simp only [Path.ofText, String.toList_append, hpieces, List.map_append, List.filter_append,
    List.map_cons, List.map_nil, joined]
  rw [List.getLast?_append]
  simp [filled, named]

theorem exists_getLast?_parts_child (folder : Path) (name : String) :
    ∃ start, (folder.child (name ++ extension)).parts.getLast? = some (start ++ extension) := by
  obtain ⟨start, last⟩ := exists_getLast?_parts_ofText name
  refine ⟨start, ?_⟩
  unfold Path.child Path.join
  split
  · rw [List.getLast?_append, last]
    rfl
  · exact last

/-- The place of a source ends like the name of one. -/
theorem exists_text_of_place {folder : Path} {name : String}
    (h : d.place (folder.child (name ++ extension)) = .ok place) :
    ∃ before, place.text = before ++ extension := by
  obtain ⟨start, last⟩ := exists_getLast?_parts_child folder name
  have forward : start ++ extension ≠ ".." := append_extension_ne (by decide)
  obtain ⟨here, _, rfl⟩ := exists_below_of_place last forward h
  obtain ⟨before, text⟩ := exists_text_below here (start ++ extension)
  exact ⟨before ++ start, by rw [text, String.append_assoc]⟩

/-! ## Files that were written -/

/-- The text that was last written to a place. -/
def lastText (d : Disk) (files : List (Path × String)) (name : String) : Option String :=
  (files.reverse.find? fun f => (d.place f.1).toOption.map Path.text = some name).map Prod.snd

/-- A disk holds the files that were written, in order, and those that were there before.  At each
place stands the text that was last written to it. -/
structure Holds (before : Table String) (files : List (Path × String)) (d : Disk) : Prop where
  placed : ∀ f ∈ files, ∃ place, d.place f.1 = .ok place
  content : ∀ name, d.files.get? name = (d.lastText files name).or (before.get? name)

section Holding

variable {before : Table String} {files : List (Path × String)}

theorem holds_nil (d : Disk) : d.Holds d.files [] :=
  ⟨by simp, fun name => by simp [lastText]⟩

/-- Only the places of the files that were written matter. -/
theorem lastText_of_extends (more : e.Extends d)
    (placed : ∀ f ∈ files, ∃ place, d.place f.1 = .ok place) (name : String) :
    e.lastText files name = d.lastText files name := by
  unfold lastText
  congr 1
  have same : ∀ f ∈ files.reverse, (e.place f.1).toOption = (d.place f.1).toOption := by
    intro f hf
    obtain ⟨place, hplace⟩ := placed f (List.mem_reverse.mp hf)
    rw [hplace, place_of_extends more hplace]
  generalize files.reverse = rest at same
  induction rest with
  | nil => rfl
  | cons f rest ih =>
    have tail := ih fun g hg => same g (List.mem_cons_of_mem _ hg)
    simp only [List.find?_cons, same f List.mem_cons_self, tail]

theorem holds_of_extends (more : e.Extends d) (same : e.files = d.files) (h : d.Holds before files) :
    e.Holds before files := by
  constructor
  · intro f hf
    obtain ⟨place, hplace⟩ := h.placed f hf
    exact ⟨place, place_of_extends more hplace⟩
  · intro name
    rw [same, h.content, lastText_of_extends more h.placed]

theorem lastText_append (hplace : d.place p = .ok place) (name : String) :
    d.lastText (files ++ [(p, text)]) name =
      if name = place.text then some text else d.lastText files name := by
  unfold lastText
  rw [List.reverse_append, List.reverse_singleton, List.singleton_append, List.find?_cons, hplace]
  by_cases here : name = place.text
  · simp [here, Except.toOption]
  · have other : place.text ≠ name := fun same => here same.symm
    simp [here, other, Except.toOption]

/-- A file that is written is the last of the files that the disk holds. -/
theorem holds_of_write (h : d.Holds before files) (written : d.write p text = .ok e) :
    e.Holds before (files ++ [(p, text)]) := by
  obtain ⟨place, hplace, _, entered⟩ := write_eq_ok.mp written
  have more : e.Extends d := extends_of_folders_eq (folders_of_write written)
  have there : e.place p = .ok place := place_of_extends more hplace
  constructor
  · intro f hf
    rcases List.mem_append.mp hf with hf | hf
    · obtain ⟨old, hold⟩ := h.placed f hf
      exact ⟨old, place_of_extends more hold⟩
    · rw [List.mem_singleton.mp hf]
      exact ⟨place, there⟩
  · intro name
    have after : e.files = Table.insert place.text text d.files := congrArg Disk.files entered
    have last : e.lastText (files ++ [(p, text)]) name =
        if name = place.text then some text else e.lastText files name :=
      lastText_append there name
    rw [after, Table.get?_insert, last, h.content, lastText_of_extends more h.placed]
    split <;> rfl

/-- Writing files leaves a file in its place, with the text that was last written to it. -/
theorem exists_file_of_holds (folders : e.folders = d.folders) (h : e.Holds d.files files)
    (file : d.find? place = some (.file text)) : ∃ last, e.find? place = some (.file last) := by
  obtain ⟨free, there⟩ := find?_eq_file_iff.mp file
  have found : ∃ last, e.files.get? place.text = some last := by
    rw [h.content, there]
    cases e.lastText files place.text with
    | none => exact ⟨text, rfl⟩
    | some last => exact ⟨last, rfl⟩
  obtain ⟨last, hlast⟩ := found
  exact ⟨last, find?_eq_file_iff.mpr ⟨find?_ne_folder_of_folders_eq folders free, hlast⟩⟩

/-- Files with the ending of sources. -/
def AreSources (files : List (Path × String)) : Prop :=
  ∀ f ∈ files, ∃ folder name, f.1 = Path.child folder (name ++ extension)

theorem areSources_append {others : List (Path × String)} (h : AreSources files)
    (hothers : AreSources others) : AreSources (files ++ others) := by
  intro f hf
  rcases List.mem_append.mp hf with hf | hf
  · exact h f hf
  · exact hothers f hf

theorem areSources_singleton (folder : Path) (name text : String) :
    AreSources [(folder.child (name ++ extension), text)] := by
  intro f hf
  rw [List.mem_singleton.mp hf]
  exact ⟨folder, name, rfl⟩

/-- Writing sources leaves all other places alone. -/
theorem get?_of_holds_sources (h : d.Holds before files) (sources : AreSources files) {name : String}
    (other : ∀ start, name ≠ start ++ extension) : d.files.get? name = before.get? name := by
  have none : d.lastText files name = none := by
    unfold lastText
    rw [Option.map_eq_none_iff, List.find?_eq_none]
    intro f hf there
    obtain ⟨folder, source, path⟩ := sources f (List.mem_reverse.mp hf)
    obtain ⟨place, hplace⟩ := h.placed f (List.mem_reverse.mp hf)
    rw [hplace] at there
    rw [path] at hplace
    obtain ⟨start, text⟩ := exists_text_of_place hplace
    have same : place.text = name := by simpa [Except.toOption] using there
    exact other start (same.symm.trans text)
  rw [h.content, none, Option.none_or]

end Holding

/-- A place whose name ends in another character is no place of a source. -/
theorem text_below_ne {here : Path} {name : String} {c : Char} (last : name.toList.getLast? = some c)
    (other : c ≠ 'a') (start : String) : (here.below name).text ≠ start ++ extension := by
  intro same
  obtain ⟨before, text⟩ := exists_text_below here name
  have ends := congrArg (fun s : String => s.toList.getLast?) (text.symm.trans same)
  have extended : extension.toList.getLast? = some 'a' := by decide
  simp only [String.toList_append, List.getLast?_append, last, extended, Option.some_or,
    Option.some.injEq] at ends
  exact other ends

end Disk
end ClientBindings
