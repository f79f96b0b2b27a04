import JoinLatency.Files
import JoinLatency.Proofs.Outcome

/-! What paths mean while files are written. A path leads to its location through directories
only, so trees with the same directories give a path the same location. Trees with the same kinds
of nodes also refuse a path for the same fault.
-/

namespace JoinLatency

def FileNode.isDirectory : FileNode → Bool
  | .file _ => false
  | .directory => true

namespace Files

/-- Two trees have directories at the same locations. -/
structure SameDirectories (left right : Files) : Prop where
  here : left.here = right.here
  directory (location : Location)
    : (left.node? location).any FileNode.isDirectory
      = (right.node? location).any FileNode.isDirectory

/-- Two trees have nodes of the same kinds at the same locations. -/
structure SameKinds (left right : Files) : Prop extends SameDirectories left right where
  present (location : Location)
    : (left.node? location).isSome = (right.node? location).isSome

/-- Two paths lead to one file that they may write to. -/
def SameFile (files : Files) (path other : String) : Prop :=
  ∃ location, files.writable path = .ok location ∧ files.writable other = .ok location

variable {files left middle right : Files} {location : Location} {path : String}

instance (files : Files) (path other : String) : Decidable (files.SameFile path other) :=
  decidable_of_iff
    (∃ location ∈ (files.writable path).toOption,
      (files.writable other).toOption = some location)
    (by simp only [SameFile, Option.mem_def, toOption_eq_some])

theorem SameDirectories.refl (files : Files) : SameDirectories files files :=
  ⟨rfl, fun _ => rfl⟩

theorem SameDirectories.symm (h : SameDirectories left right) : SameDirectories right left :=
  ⟨h.here.symm, fun location => (h.directory location).symm⟩

theorem SameDirectories.trans (hl : SameDirectories left middle)
    (hr : SameDirectories middle right)
    : SameDirectories left right :=
  ⟨hl.here.trans hr.here, fun location => (hl.directory location).trans (hr.directory location)⟩

theorem SameKinds.refl (files : Files) : SameKinds files files :=
  ⟨.refl files, fun _ => rfl⟩

theorem SameKinds.symm (h : SameKinds left right) : SameKinds right left :=
  ⟨h.toSameDirectories.symm, fun location => (h.present location).symm⟩

theorem SameKinds.trans (hl : SameKinds left middle) (hr : SameKinds middle right)
    : SameKinds left right :=
  ⟨hl.toSameDirectories.trans hr.toSameDirectories,
    fun location => (hl.present location).trans (hr.present location)⟩

-----------------------------------------------------------------------------------------
-- Resolving paths
-----------------------------------------------------------------------------------------

/-- A name leads on if it is short and stands for a directory. -/
theorem toOption_descend_cons (files : Files) (start : Location) {name : String}
    (rest : List String) (other : name ≠ "..")
    : (files.descend start (name :: rest)).toOption
      = if ¬ FilePath.longestName < name.utf8ByteSize
            ∧ (files.node? (start ++ [name])).any FileNode.isDirectory then
          (files.descend (start ++ [name]) rest).toOption
        else none := by
  by_cases long : FilePath.longestName < name.utf8ByteSize
  · simp [descend, long, Except.toOption]
  · cases node : files.node? (start ++ [name]) with
    | none => simp [descend, long, node, Except.toOption]
    | some found =>
        cases found <;>
          simp [descend, long, node, FileNode.isDirectory, Except.toOption]

/-- Names lead to the same directory through the same directories, by induction along them. -/
theorem SameDirectories.descend (h : SameDirectories left right) (start : Location)
    (names : List String)
    : (left.descend start names).toOption = (right.descend start names).toOption := by
  induction names generalizing start with
  | nil => rfl
  | cons name rest ih =>
      by_cases up : name = ".."
      · subst up
        exact ih start.dropLast
      · rw [toOption_descend_cons left start rest up, toOption_descend_cons right start rest up,
          h.directory, ih]

theorem toOption_bind {ε α β : Type} (first : Except ε α) (second : α → Except ε β)
    : (first >>= second).toOption = first.toOption.bind fun value => (second value).toOption := by
  cases first <;> rfl

theorem SameDirectories.locate (h : SameDirectories left right) (path : String)
    : (left.locate path).toOption = (right.locate path).toOption := by
  have start (parsed : FilePath) : left.startOf parsed = right.startOf parsed := by
    simp only [startOf, h.here]
  simp only [Files.locate, start]
  -- The first three checks read the path alone.
  repeat (split; rfl)
  simp only [toOption_bind, h.descend, Files.descend]

/-- Trees with the same kinds of nodes have no node, a file or a directory at a location. -/
theorem SameKinds.node? (h : SameKinds left right) (location : Location)
    : left.node? location = none ∧ right.node? location = none
      ∨ (∃ old new, left.node? location = some (.file old)
          ∧ right.node? location = some (.file new))
      ∨ left.node? location = some .directory ∧ right.node? location = some .directory := by
  have directory := h.directory location
  have present := h.present location
  cases hl : left.node? location with
  | none => simp_all
  | some old =>
      cases hr : right.node? location with
      | none => simp_all
      | some new => cases old <;> cases new <;> simp_all [FileNode.isDirectory]

/-- Names lead to the same directory, or to the same fault, through the same kinds of nodes. -/
theorem SameKinds.descend (h : SameKinds left right) (start : Location) (names : List String)
    : left.descend start names = right.descend start names := by
  induction names generalizing start with
  | nil => rfl
  | cons name rest ih =>
      by_cases up : name = ".."
      · subst up
        exact ih start.dropLast
      · rcases h.node? (start ++ [name]) with ⟨hl, hr⟩ | ⟨old, new, hl, hr⟩ | ⟨hl, hr⟩ <;>
          simp [Files.descend, hl, hr, ih]

theorem SameKinds.locate (h : SameKinds left right) (path : String)
    : left.locate path = right.locate path := by
  simp only [Files.locate, startOf, h.here, h.descend]

-----------------------------------------------------------------------------------------
-- Files that may be written
-----------------------------------------------------------------------------------------

/-- A path may write where it leads, unless it can only mean a directory or meets one. -/
theorem writable_of_locate {parsed : FilePath} (found : files.locate path = .ok (location, parsed))
    : files.writable path
      = if parsed.directoryOnly || (files.node? location).any FileNode.isDirectory then
          .error .isDirectory
        else .ok location := by
  rw [writable, found]
  cases only : parsed.directoryOnly with
  | true => simp [only, bind, Except.bind, throw, throwThe, MonadExceptOf.throw]
  | false =>
      cases node : files.node? location with
      | none => simp [only, node, bind, Except.bind, pure, Except.pure]
      | some found =>
          cases found <;>
            simp [only, node, bind, Except.bind, pure, Except.pure, throw, throwThe,
              MonadExceptOf.throw, FileNode.isDirectory]

theorem writable_of_lost {fault : IoFault} (lost : files.locate path = .error fault)
    : files.writable path = .error fault := by
  simp only [writable, lost, bind, Except.bind]

/-- A path that may write leads to a location that is no directory. -/
theorem writable_eq_ok (h : files.writable path = .ok location)
    : (∃ parsed, files.locate path = .ok (location, parsed) ∧ parsed.directoryOnly = false)
      ∧ (files.node? location).any FileNode.isDirectory = false := by
  cases found : files.locate path with
  | error fault =>
      rw [writable_of_lost found] at h
      cases h
  | ok target =>
      obtain ⟨other, parsed⟩ := target
      rw [writable_of_locate found] at h
      split at h
      · cases h
      next free =>
        obtain rfl := Except.ok.inj h
        obtain ⟨only, free⟩ := Bool.or_eq_false_iff.mp (Bool.eq_false_iff.mpr free)
        exact ⟨⟨parsed, rfl, only⟩, free⟩

theorem ne_nil_of_writable (h : files.writable path = .ok location) : location ≠ [] := by
  rintro rfl
  have free := (writable_eq_ok h).2
  cases free

/-- A path may write to the same location in trees with the same directories. -/
theorem SameDirectories.writable (h : SameDirectories left right)
    (writes : left.writable path = .ok location)
    : right.writable path = .ok location := by
  obtain ⟨⟨parsed, found, only⟩, free⟩ := writable_eq_ok writes
  have other : right.locate path = .ok (location, parsed) := by
    rw [← toOption_eq_some, ← h.locate, found]
    rfl
  rw [h.directory] at free
  rw [writable_of_locate other, only, free]
  rfl

theorem SameDirectories.writable_toOption (h : SameDirectories left right) (path : String)
    : (left.writable path).toOption = (right.writable path).toOption := by
  ext location
  simp only [toOption_eq_some]
  exact ⟨h.writable, h.symm.writable⟩

theorem SameDirectories.sameFile (h : SameDirectories left right) (path other : String)
    : left.SameFile path other ↔ right.SameFile path other := by
  constructor
  · rintro ⟨location, hp, ho⟩
    exact ⟨location, h.writable hp, h.writable ho⟩
  · rintro ⟨location, hp, ho⟩
    exact ⟨location, h.symm.writable hp, h.symm.writable ho⟩

/-- Trees with the same kinds of nodes let a path write to the same location, or refuse it for
the same fault.
-/
theorem SameKinds.writable (h : SameKinds left right) (path : String)
    : left.writable path = right.writable path := by
  have same := h.locate path
  cases found : right.locate path with
  | error fault => rw [writable_of_lost found, writable_of_lost (same.trans found)]
  | ok target =>
      rw [writable_of_locate found, writable_of_locate (same.trans found), h.directory]

/-- Reading a file that may be written gives its content. -/
theorem read_eq_ok {content : ByteArray} (h : files.writable path = .ok location)
    : files.read path = .ok content ↔ files.content? location = some content := by
  obtain ⟨⟨parsed, found, only⟩, free⟩ := writable_eq_ok h
  rw [read, found, content?]
  cases node : files.node? location with
  | none => simp [node, bind, Except.bind, throw, throwThe, MonadExceptOf.throw]
  | some other =>
      cases other <;>
        simp_all [bind, Except.bind, pure, Except.pure, FileNode.isDirectory]

-----------------------------------------------------------------------------------------
-- Writing
-----------------------------------------------------------------------------------------

/-- Writing a file leaves every other node, and a file at its location. -/
theorem node?_put (free : (files.node? location).any FileNode.isDirectory = false)
    (content : ByteArray) (other : Location)
    : (files.put location content).node? other
      = if location = other then some (.file content) else files.node? other := by
  cases location with
  | nil => simp [node?, FileNode.isDirectory] at free
  | cons name rest =>
      cases other with
      | nil => simp [node?]
      | cons => simp [node?, put, lookup_setNode]

theorem SameDirectories.put (free : (files.node? location).any FileNode.isDirectory = false)
    (content : ByteArray)
    : SameDirectories files (files.put location content) := by
  refine ⟨rfl, fun other => ?_⟩
  rw [node?_put free]
  split
  next same =>
    subst same
    exact free
  · rfl

/-- Writing the same file leaves trees with the same kinds of nodes. -/
theorem SameKinds.put (h : SameKinds left right)
    (free : (left.node? location).any FileNode.isDirectory = false)
    (content other : ByteArray)
    : SameKinds (left.put location content) (right.put location other) := by
  have free' := free
  rw [h.directory] at free'
  refine ⟨(SameDirectories.put free content).symm.trans
    (h.toSameDirectories.trans (SameDirectories.put free' other)), fun place => ?_⟩
  rw [node?_put free, node?_put free']
  split
  · rfl
  · exact h.present place

/-- Writing a file anew leaves the kinds of nodes. -/
theorem SameKinds.put_file {old : ByteArray} (h : files.node? location = some (.file old))
    (content : ByteArray)
    : SameKinds files (files.put location content) := by
  have free : (files.node? location).any FileNode.isDirectory = false := by
    simp [h, FileNode.isDirectory]
  refine ⟨.put free content, fun place => ?_⟩
  rw [node?_put free]
  split
  next same =>
    subst same
    simp [h]
  · rfl

/-- The tree with an empty file where a path may write, if it may. -/
def touch (files : Files) (path : String) : Files :=
  match files.writable path with
  | .ok location => files.put location ByteArray.empty
  | .error _ => files

theorem SameDirectories.touch (files : Files) (path : String)
    : SameDirectories files (files.touch path) := by
  rw [Files.touch]
  split
  next location writes => exact .put (writable_eq_ok writes).2 _
  · exact .refl files

theorem SameKinds.touch (h : SameKinds left right) (path : String)
    : SameKinds (left.touch path) (right.touch path) := by
  rw [Files.touch, Files.touch, h.writable]
  split
  next location writes =>
    rw [← h.writable] at writes
    exact h.put (writable_eq_ok writes).2 _ _
  · exact h

/-- More bytes for the file of a path leave the kinds of nodes that touching it leaves. -/
theorem SameKinds.touch_appendAt (h : files.writable path = .ok location) (content : ByteArray)
    : SameKinds (files.touch path) (files.appendAt location content) := by
  rw [Files.touch, h]
  exact (SameKinds.refl files).put (writable_eq_ok h).2 _ _

/-- Touching a path twice leaves the kinds of nodes that touching it once leaves. -/
theorem SameKinds.touch_touch (files : Files) (path : String)
    : SameKinds (files.touch path) ((files.touch path).touch path) := by
  cases writes : files.writable path with
  | error fault =>
      have same : files.touch path = files := by rw [Files.touch, writes]
      rw [same, same]
      exact .refl files
  | ok location =>
      have free := (writable_eq_ok writes).2
      have first : files.touch path = files.put location ByteArray.empty := by
        rw [Files.touch, writes]
      have again := (SameDirectories.put free ByteArray.empty).writable writes
      rw [first, Files.touch, again]
      exact .put_file (by rw [node?_put free, if_pos rfl]) _

-----------------------------------------------------------------------------------------
-- Texts one after the other
-----------------------------------------------------------------------------------------

theorem save_of_refused {fault : IoFault} (refused : files.writable path = .error fault)
    (content : ByteArray)
    : files.save path content = .error fault := by
  rw [save, refused]
  rfl

theorem save_of_writable (writes : files.writable path = .ok location) (content : ByteArray)
    : files.save path content = .ok (files.put location content) := by
  rw [save, writes]
  rfl

/-- What was saved is the content of the file that its path writes to, and nothing else changes.
-/
theorem save_eq_ok {next : Files} {content : ByteArray} (h : files.save path content = .ok next)
    : ∃ location,
        files.writable path = .ok location
        ∧ files.SameDirectories next
        ∧ ∀ other,
            next.content? other
            = if location = other then some content else files.content? other := by
  obtain ⟨location, writes, done⟩ := bind_eq_ok.mp h
  obtain rfl := Except.ok.inj done
  exact ⟨location, writes, .put (writable_eq_ok writes).2 content,
    fun other => content?_put files (ne_nil_of_writable writes) other content⟩

/-- The tree after some texts were saved, each where its path says. -/
def saveAll (files : Files) : List (String × String) → Except IoFault Files
  | [] => .ok files
  | (path, text) :: rest => do saveAll (← files.save path text.toUTF8) rest

/-- Texts leave the directories and the content of a file that none of them is saved in. -/
theorem saveAll_of_apart {last : Files} {texts : List (String × String)}
    (h : files.saveAll texts = .ok last)
    (apart : ∀ entry ∈ texts, files.writable entry.1 ≠ .ok location)
    : files.SameDirectories last ∧ last.content? location = files.content? location := by
  induction texts generalizing files with
  | nil =>
      obtain rfl := Except.ok.inj h
      exact ⟨.refl files, rfl⟩
  | cons entry rest ih =>
      obtain ⟨next, saved, more⟩ := bind_eq_ok.mp h
      obtain ⟨place, writes, same, content⟩ := save_eq_ok saved
      have other : place ≠ location := by
        rintro rfl
        exact apart entry List.mem_cons_self writes
      obtain ⟨later, kept⟩ := ih more fun entry member writes' =>
        apart entry (List.mem_cons_of_mem _ member) (same.symm.writable writes')
      exact ⟨same.trans later, by rw [kept, content, if_neg other]⟩

theorem readText_of_content? {text : String} (h : files.writable path = .ok location)
    (content : files.content? location = some text.toUTF8)
    : files.readText path = .ok text := by
  have valid : String.fromUTF8? text.toUTF8 = some text := dif_pos text.isValidUTF8
  rw [readText, (read_eq_ok h).mpr content]
  dsimp only [bind, Except.bind]
  rw [valid]
  rfl

theorem readText_save {next : Files} {text : String} (h : files.save path text.toUTF8 = .ok next)
    : next.readText path = .ok text := by
  obtain ⟨place, writes, same, content⟩ := save_eq_ok h
  refine readText_of_content? (same.writable writes) ?_
  rw [content, if_pos rfl]

/-- Texts that are saved in files of their own are all read back, by induction along them. -/
theorem readText_saveAll {last : Files} {texts : List (String × String)}
    (h : files.saveAll texts = .ok last)
    (apart : texts.Pairwise fun earlier later => ¬ files.SameFile earlier.1 later.1)
    : ∀ entry ∈ texts, last.readText entry.1 = .ok entry.2 := by
  induction texts generalizing files with
  | nil => simp
  | cons entry rest ih =>
      obtain ⟨next, saved, more⟩ := bind_eq_ok.mp h
      obtain ⟨place, writes, same, content⟩ := save_eq_ok saved
      obtain ⟨first, others⟩ := List.pairwise_cons.mp apart
      have own (later : String × String) (member : later ∈ rest)
          : next.writable later.1 ≠ .ok place := fun writes' =>
        first later member ⟨place, writes, same.symm.writable writes'⟩
      obtain ⟨after, kept⟩ := saveAll_of_apart more own
      refine List.forall_mem_cons.mpr ⟨?_, ih more (others.imp fun apart shared => ?_)⟩
      · refine readText_of_content? (after.writable (same.writable writes)) ?_
        rw [kept, content, if_pos rfl]
      · exact apart ((same.sameFile _ _).mpr shared)

end Files

end JoinLatency
