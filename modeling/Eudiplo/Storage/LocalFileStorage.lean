import Eudiplo.Shared.Splitting
import Mathlib.Data.List.Infix

/-!
# Files below a directory

`LocalFileStorage` keeps every object in a file below its base directory, and the content type
of an object in a second file beside it, with `.meta` after its name.  `resolveSafePath` accepts
the keys of files below the base directory, but for names that begin with two dots
(`resolveSafePath_iff`), so nothing else is written (`writes_confined`).  Under the keys that
`FilesService` makes the files are a map of objects (`refines_objects`), in which an object that
is written without a content type keeps the one it had.
-/

namespace Eudiplo

namespace LocalFileStorage

/-! ## Paths -/

abbrev Segment := List Char

/-- An absolute path. -/
abbrev Path := List Segment

def up : Segment := ['.', '.']

/-- A segment of a path without detours. -/
structure IsSegment (s : Segment) : Prop where
  ne_nil : s ≠ []
  no_slash : '/' ∉ s
  ne_dot : s ≠ ['.']
  ne_up : s ≠ up

/-- `resolve(this.baseDir)`. -/
structure BaseDir where
  path : Path
  segments : ∀ s ∈ path, IsSegment s

/-- Go on from a path; the root has no parent. -/
def enter (path : Path) (s : Segment) : Path :=
  if s = [] ∨ s = ['.'] then path else if s = up then path.dropLast else path ++ [s]

/-- `resolve(basePath, key)`. -/
def resolve (base : Path) (key : List Char) : Path :=
  (key.splitOn '/').foldl enter (if key.head? = some '/' then [] else base)

/-- The segments of `relative(from, to)`. -/
def relative : Path → Path → Path
  | [], target => target
  | source, [] => source.map fun _ => up
  | s :: source, t :: target =>
    if s = t then relative source target else (s :: source).map (fun _ => up) ++ t :: target

def pathText (path : Path) : List Char := ['/'].intercalate path

inductive StorageError where
  | error (message : String)
  /-- An error of the file system. -/
  | system (code : String)
  deriving DecidableEq

def resolveSafePath (base : BaseDir) (key : String) : Except StorageError Path :=
  let fullPath := resolve base.path key.toList
  let relativePath := pathText (relative base.path fullPath)
  if key = "" ∨ '\x00' ∈ key.toList then .error (.error "Invalid storage key")
  else if up <+: relativePath ∨ '/' :: up <:+: relativePath ∨ relativePath = [] then
    .error (.error "Invalid storage key")
  else .ok fullPath

/-- `fullPath + ".meta"`. -/
def metaPath (fullPath : Path) : Path :=
  fullPath.dropLast ++ [fullPath.getLastD [] ++ ".meta".toList]

/-! ## Files -/

inductive Entry where
  | file (content : List UInt8)
  | directory
  deriving DecidableEq

abbrev Files := Path → Option Entry

abbrev Disk := EStateM StorageError Files

def Files.set (files : Files) (path : Path) (entry : Option Entry) : Files :=
  fun p => if p = path then entry else files p

theorem Files.set_self (files : Files) (path : Path) (entry : Option Entry) :
    files.set path entry path = entry := if_pos rfl

theorem Files.set_of_ne {path p : Path} (files : Files) (entry : Option Entry) (h : p ≠ path) :
    files.set path entry p = files p := if_neg h

theorem get_bind {α : Type} (next : Files → Disk α) (files : Files) :
    (get >>= next) files = next files files := rfl

theorem bind_ok {α β : Type} {program : Disk α} {next : α → Disk β} {a : α}
    {files files' : Files} (h : program files = .ok a files') :
    (program >>= next) files = next a files' := by
  show EStateM.bind program next files = _
  rw [EStateM.bind, h]

/-- What is thrown if there is nothing at a path. -/
def missing (files : Files) (path : Path) : StorageError :=
  if path.inits.any fun p => files p matches some (.file _) then .system "ENOTDIR"
  else .system "ENOENT"

/-- `mkdirSync(path, { recursive: true })`, below a directory that is there. -/
def mkdirs (made : Path) : Path → Disk Unit
  | [] => pure ()
  | s :: rest => do
    match (← get) (made ++ [s]) with
    | some (.file _) => throw (.system (if rest = [] then "EEXIST" else "ENOTDIR"))
    | some .directory => pure ()
    | none => modify (·.set (made ++ [s]) (some .directory))
    mkdirs (made ++ [s]) rest

/-- `writeFileSync`, or a stream into a file, in a directory that is there. -/
def writeFile (path : Path) (content : List UInt8) : Disk Unit := do
  match (← get) path with
  | some .directory => throw (.system "EISDIR")
  | _ => modify (·.set path (some (.file content)))

/-- `statSync`. -/
def stat (path : Path) : Disk Entry := do
  match (← get) path with
  | some entry => pure entry
  | none => throw (missing (← get) path)

/-- `rmSync`. -/
def remove (path : Path) : Disk Unit := do
  match (← get) path with
  | some (.file _) => modify (·.set path none)
  | some .directory => throw (.system "ERR_FS_EISDIR")
  | none => throw (missing (← get) path)

/-- `JSON`, for the content type in a side file. -/
structure MetaCodec where
  stringify : String → List UInt8
  /-- `JSON.parse(text).contentType`. -/
  parse : List UInt8 → Except StorageError (Option String)
  parse_stringify : ∀ contentType, parse (stringify contentType) = .ok (some contentType)

def liftExcept {α : Type} : Except StorageError α → Disk α
  | .ok a => pure a
  | .error e => throw e

variable (base : BaseDir) (codec : MetaCodec)

def put (key : String) (body : List UInt8) (contentType : Option String) : Disk Unit := do
  let fullPath ← liftExcept (resolveSafePath base key)
  mkdirs [] fullPath.dropLast
  writeFile fullPath body
  match contentType.filter (· ≠ "") with
  | none => pure ()
  | some contentType => writeFile (metaPath fullPath) (codec.stringify contentType)

/-- The stream of an entry (that of a directory fails when it is read), and the content type. -/
def getStream (key : String) : Disk (Entry × Option String) := do
  let fullPath ← liftExcept (resolveSafePath base key)
  let entry ← stat fullPath
  match (← get) (metaPath fullPath) with
  | none => return (entry, none)
  | some .directory => throw (.system "EISDIR")
  | some (.file text) => return (entry, ← liftExcept (codec.parse text))

def delete (key : String) : Disk Unit := do
  let fullPath ← liftExcept (resolveSafePath base key)
  remove fullPath
  if ((← get) (metaPath fullPath)).isSome then remove (metaPath fullPath)

def existsKey (key : String) : Disk Bool := do
  match resolveSafePath base key with
  | .ok fullPath => return ((← get) fullPath).isSome
  | .error _ => return false

/-! ## Histories -/

inductive Operation where
  | put (key : String) (body : List UInt8) (contentType : Option String)
  | getStream (key : String)
  | delete (key : String)
  | existsKey (key : String)

def Operation.key : Operation → String
  | .put key .. | .getStream key | .delete key | .existsKey key => key

inductive Answer where
  | done
  | stream (entry : Entry) (contentType : Option String)
  | found (there : Bool)
  | failed (error : StorageError)

def answer {α : Type} (done : α → Answer) : EStateM.Result StorageError Files α → Answer × Files
  | .ok a files => (done a, files)
  | .error e files => (.failed e, files)

def perform (files : Files) : Operation → Answer × Files
  | .put key body contentType => answer (fun _ => .done) (put base codec key body contentType files)
  | .getStream key => answer (fun r => .stream r.1 r.2) (getStream base codec key files)
  | .delete key => answer (fun _ => .done) (delete base key files)
  | .existsKey key => answer .found (existsKey base key files)

/-- The answers of a history, and the files after it. -/
def run (files : Files) : List Operation → List Answer × Files
  | [] => ([], files)
  | op :: ops =>
    let first := perform base codec files op
    let rest := run first.2 ops
    (first.1 :: rest.1, rest.2)

/-! ## Safe keys -/

variable {base codec} {path source target rest : Path} {s : Segment} {key : List Char}

theorem enter_segments (hpath : ∀ s ∈ path, IsSegment s) (hs : '/' ∉ s) :
    ∀ s' ∈ enter path s, IsSegment s' := by
  unfold enter
  split
  · exact hpath
  · rename_i hplain
    split
    · exact fun s' hs' => hpath s' (List.mem_of_mem_dropLast hs')
    · rename_i hup
      intro s' hs'
      rcases List.mem_append.mp hs' with hold | hnew
      · exact hpath s' hold
      · rw [List.mem_singleton.mp hnew]
        exact ⟨fun h => hplain (.inl h), hs, fun h => hplain (.inr h), hup⟩

/-- A resolved path has no detours. -/
theorem resolve_segments (hpath : ∀ s ∈ path, IsSegment s) (key : List Char) :
    ∀ s ∈ resolve path key, IsSegment s := by
  have hstart : ∀ s ∈ (if key.head? = some '/' then [] else path), IsSegment s := by
    split
    · exact fun s hs => absurd hs List.not_mem_nil
    · exact hpath
  have hparts : ∀ s ∈ key.splitOn '/', '/' ∉ s := fun s hs hslash =>
    (List.of_mem_splitOn hs hslash).2 rfl
  unfold resolve
  generalize (if key.head? = some '/' then [] else path) = start at hstart ⊢
  generalize key.splitOn '/' = parts at hparts ⊢
  induction parts generalizing start with
  | nil => exact hstart
  | cons part parts ih =>
    exact ih _ (enter_segments hstart (hparts part List.mem_cons_self))
      fun s hs => hparts s (List.mem_cons_of_mem part hs)

/-- The way to a path goes down, or begins with a step up. -/
theorem relative_cases (source target : Path) :
    (∃ rest, target = source ++ rest ∧ relative source target = rest) ∨
      (∃ more, relative source target = up :: more) ∧ ¬source <+: target := by
  induction source generalizing target with
  | nil => exact .inl ⟨target, rfl, by rw [relative]⟩
  | cons s source ih =>
    cases target with
    | nil => exact .inr ⟨⟨_, rfl⟩, by simp⟩
    | cons t target =>
      by_cases hst : s = t
      · subst hst
        rw [relative, if_pos rfl]
        rcases ih target with ⟨rest, rfl, hrest⟩ | ⟨hmore, hapart⟩
        · exact .inl ⟨rest, rfl, hrest⟩
        · exact .inr ⟨hmore, fun h => hapart (List.cons_prefix_cons.mp h).2⟩
      · rw [relative, if_neg hst]
        exact .inr ⟨⟨_, rfl⟩, fun h => hst (List.cons_prefix_cons.mp h).1⟩

theorem pathText_cons_cons (s t : Segment) (rest : Path) :
    pathText (s :: t :: rest) = s ++ '/' :: pathText (t :: rest) := by
  simp [pathText]

theorem up_prefix_append (hs : IsSegment s) (text : List Char) :
    up <+: s ++ '/' :: text ↔ up <+: s := by
  refine ⟨fun h => ?_, fun h => h.trans (List.prefix_append _ _)⟩
  cases s with
  | nil => exact absurd rfl hs.ne_nil
  | cons c s =>
    cases s with
    | nil =>
      rw [up, List.singleton_append, List.cons_prefix_cons, List.cons_prefix_cons] at h
      cases h.2.1
    | cons d more =>
      rw [up, List.cons_append, List.cons_append, List.cons_prefix_cons,
        List.cons_prefix_cons] at h
      obtain ⟨rfl, rfl, -⟩ := h
      exact ⟨more, rfl⟩

theorem slash_infix_append (hs : '/' ∉ s) (text : List Char) :
    '/' :: up <:+: s ++ '/' :: text ↔ up <+: text ∨ '/' :: up <:+: text := by
  induction s with
  | nil => rw [List.nil_append, List.infix_cons_iff, List.cons_prefix_cons, and_iff_right rfl]
  | cons c s ih =>
    rw [List.mem_cons, not_or] at hs
    rw [List.cons_append, List.infix_cons_iff, List.cons_prefix_cons, ih hs.2,
      or_iff_right fun h => hs.1 h.1]

/-- **What is refused of a way down**: no way at all, and a name that begins with two dots. -/
theorem refused_iff (hrest : ∀ s ∈ rest, IsSegment s) :
    (up <+: pathText rest ∨ '/' :: up <:+: pathText rest ∨ pathText rest = []) ↔
      rest = [] ∨ ∃ s ∈ rest, up <+: s := by
  induction rest with
  | nil => simp [pathText]
  | cons s rest ih =>
    have hs := hrest s List.mem_cons_self
    cases rest with
    | nil =>
      have hinfix : ¬ '/' :: up <:+: s := fun h => hs.no_slash (h.subset List.mem_cons_self)
      simp [pathText, hs.ne_nil, hinfix]
    | cons t rest =>
      have ih := ih fun s' hs' => hrest s' (List.mem_cons_of_mem s hs')
      have hne : s ++ '/' :: pathText (t :: rest) ≠ [] := by simp
      have hne' : pathText (t :: rest) ≠ [] := by
        have ht := (hrest t (by simp)).ne_nil
        cases rest with
        | nil => simpa [pathText] using ht
        | cons t' rest =>
          rw [pathText_cons_cons]
          simp
      rw [or_iff_left hne', or_iff_right (List.cons_ne_nil t rest)] at ih
      rw [pathText_cons_cons, up_prefix_append hs, slash_infix_append hs.no_slash,
        or_iff_left hne, ih, or_iff_right (List.cons_ne_nil s _)]
      simp only [List.exists_mem_cons_iff]

/-- **The keys that are accepted.** -/
theorem safe_iff {key : String} {fullPath : Path} :
    resolveSafePath base key = .ok fullPath ↔ key ≠ "" ∧ '\x00' ∉ key.toList ∧
      fullPath = resolve base.path key.toList ∧ ∃ rest, rest ≠ [] ∧ fullPath = base.path ++ rest ∧
        ∀ s ∈ rest, ¬up <+: s := by
  have hsegments := resolve_segments base.segments key.toList
  unfold resolveSafePath
  by_cases hkey : key = "" ∨ '\x00' ∈ key.toList
  · rw [if_pos hkey]
    refine ⟨fun h => (by cases h), fun h => absurd hkey ?_⟩
    rw [not_or]
    exact ⟨h.1, h.2.1⟩
  rw [if_neg hkey]
  rw [not_or] at hkey
  rcases relative_cases base.path (resolve base.path key.toList) with
    ⟨rest, hfull, hrelative⟩ | ⟨⟨more, hmore⟩, hapart⟩
  · have hrest : ∀ s ∈ rest, IsSegment s := fun s hs =>
      hsegments s (hfull ▸ List.mem_append_right _ hs)
    show (if _ ∨ _ ∨ _ then _ else _) = _ ↔ _
    rw [hrelative]
    by_cases hrefused : rest = [] ∨ ∃ s ∈ rest, up <+: s
    · rw [if_pos ((refused_iff hrest).mpr hrefused)]
      refine ⟨fun h => (by cases h), fun ⟨_, _, hpath, rest', hne, hrest', hnames⟩ => ?_⟩
      obtain rfl := List.append_cancel_left (hfull.symm.trans (hpath.symm.trans hrest'))
      rcases hrefused with hempty | ⟨s, hs, hdots⟩
      · exact absurd hempty hne
      · exact absurd hdots (hnames s hs)
    · rw [if_neg (mt (refused_iff hrest).mp hrefused)]
      rw [not_or] at hrefused
      refine ⟨fun h => ?_, fun h => congrArg _ h.2.2.1.symm⟩
      obtain rfl := Except.ok.inj h
      exact ⟨hkey.1, hkey.2, rfl, rest, hrefused.1, hfull, fun s hs hdots =>
        hrefused.2 ⟨s, hs, hdots⟩⟩
  · have hup : up <+: pathText (relative base.path (resolve base.path key.toList)) := by
      rw [hmore]
      cases more with
      | nil => exact ⟨[], by simp [pathText]⟩
      | cons t more =>
        rw [pathText_cons_cons]
        exact List.prefix_append _ _
    show (if _ ∨ _ ∨ _ then _ else _) = _ ↔ _
    rw [if_pos (.inl hup)]
    refine ⟨fun h => (by cases h), fun ⟨_, _, hpath, rest, _, hrest, _⟩ => ?_⟩
    exact absurd ⟨rest, hrest.symm.trans hpath⟩ hapart

/-! ## What is written -/

variable {α β : Type} {files files' : Files}

def filesAfter : EStateM.Result StorageError Files α → Files
  | .ok _ files => files
  | .error _ files => files

/-- Only entries below the base directory change, and missing directories on the way to it. -/
def Confined (base : BaseDir) (files files' : Files) : Prop :=
  ∀ p, files' p = files p ∨ (∃ rest, rest ≠ [] ∧ p = base.path ++ rest) ∨
    p <+: base.path ∧ files p = none ∧ files' p = some .directory

/-- The steps of a program keep to it, also when it fails. -/
def WritesBelow (base : BaseDir) (program : Disk α) : Prop :=
  ∀ files, Confined base files (filesAfter (program files))

theorem Confined.refl (files : Files) : Confined base files files := fun _ => .inl rfl

theorem Confined.trans {files'' : Files} (h : Confined base files files')
    (h' : Confined base files' files'') : Confined base files files'' := by
  intro p
  rcases h' p with hsame | hbelow | ⟨hinit, hnone, hmade⟩
  · rw [hsame]
    exact h p
  · exact .inr (.inl hbelow)
  · rcases h p with hsame | hbelow | ⟨-, -, hdirectory⟩
    · exact .inr (.inr ⟨hinit, hsame ▸ hnone, hmade⟩)
    · exact .inr (.inl hbelow)
    · rw [hnone] at hdirectory
      cases hdirectory

theorem WritesBelow.bind {program : Disk α} {next : α → Disk β} (h : WritesBelow base program)
    (hnext : ∀ a, WritesBelow base (next a)) : WritesBelow base (program >>= next) := by
  intro files
  have hfirst := h files
  show Confined base files (filesAfter (EStateM.bind program next files))
  unfold EStateM.bind
  cases hrun : program files with
  | ok a files' =>
    rw [hrun] at hfirst
    exact hfirst.trans (hnext a files')
  | error e files' =>
    rw [hrun] at hfirst
    exact hfirst

/-- A program that reads, and goes on from what it has read. -/
theorem WritesBelow.get {next : Files → Disk α} (h : ∀ files, WritesBelow base (next files)) :
    WritesBelow base (get >>= next) := fun files => h files files

theorem writesBelow_pure (a : α) : WritesBelow base (pure a) := fun files => .refl files

theorem writesBelow_throw (e : StorageError) : WritesBelow base (throw e : Disk α) :=
  fun files => .refl files

theorem writesBelow_liftExcept (x : Except StorageError α) : WritesBelow base (liftExcept x) := by
  cases x with
  | ok a => exact writesBelow_pure a
  | error e => exact writesBelow_throw e

theorem confined_set {entry : Option Entry} (hrest : rest ≠ []) :
    Confined base files (files.set (base.path ++ rest) entry) := by
  intro p
  by_cases hp : p = base.path ++ rest
  · exact .inr (.inl ⟨rest, hrest, hp⟩)
  · exact .inl (Files.set_of_ne _ _ hp)

theorem writesBelow_writeFile {content : List UInt8} (hrest : rest ≠ []) :
    WritesBelow base (writeFile (base.path ++ rest) content) := by
  refine .get fun files => ?_
  split
  · exact writesBelow_throw _
  · exact fun files => confined_set hrest

theorem writesBelow_remove (hrest : rest ≠ []) :
    WritesBelow base (remove (base.path ++ rest)) := by
  refine .get fun files => ?_
  split
  · exact fun files => confined_set hrest
  · exact writesBelow_throw _
  · exact .get fun _ => writesBelow_throw _

theorem mkdirs_missing {made : Path} (h : files (made ++ [s]) = none) :
    mkdirs made (s :: path) files =
      mkdirs (made ++ [s]) path (files.set (made ++ [s]) (some .directory)) := by
  rw [mkdirs, get_bind, h]
  rfl

theorem mkdirs_directory {made : Path} (h : files (made ++ [s]) = some .directory) :
    mkdirs made (s :: path) files = mkdirs (made ++ [s]) path files := by
  rw [mkdirs, get_bind, h]

/-- **Only missing directories on the way are made**, also when it fails. -/
theorem mkdirs_after (made path : Path) (files : Files) (p : Path) :
    filesAfter (mkdirs made path files) p = files p ∨ p <+: made ++ path ∧ files p = none ∧
      filesAfter (mkdirs made path files) p = some .directory := by
  induction path generalizing made files with
  | nil => exact .inl rfl
  | cons s path ih =>
    rw [List.append_cons]
    cases hentry : files (made ++ [s]) with
    | none =>
      rw [mkdirs_missing hentry]
      have hrest := ih (made ++ [s]) (files.set (made ++ [s]) (some .directory))
      by_cases hp : p = made ++ [s]
      · subst hp
        rw [Files.set_self] at hrest
        rcases hrest with hmade | ⟨-, hnone, -⟩
        · exact .inr ⟨List.prefix_append _ _, hentry, hmade⟩
        · cases hnone
      · rwa [Files.set_of_ne _ _ hp] at hrest
    | some entry =>
      cases entry with
      | file content =>
        rw [mkdirs, get_bind, hentry]
        exact .inl rfl
      | directory =>
        rw [mkdirs_directory hentry]
        exact ih _ files

theorem writesBelow_mkdirs (rest : Path) (h : path <+: base.path ++ rest) :
    WritesBelow base (mkdirs [] path) := by
  intro files p
  rcases mkdirs_after [] path files p with hkept | ⟨hp, hnone, hmade⟩
  · exact .inl hkept
  · rcases List.prefix_or_prefix_of_prefix (hp.trans h) (List.prefix_append _ _) with
      habove | ⟨more, rfl⟩
    · exact .inr (.inr ⟨habove, hnone, hmade⟩)
    · cases more with
      | nil => exact .inr (.inr ⟨by rw [List.append_nil], hnone, hmade⟩)
      | cons t more => exact .inr (.inl ⟨t :: more, List.cons_ne_nil _ _, rfl⟩)

/-- **Every operation writes below the base directory**, whatever its key. -/
theorem perform_confined (codec : MetaCodec) (files : Files) (op : Operation) :
    Confined base files (perform base codec files op).2 := by
  have hafter {α : Type} {program : Disk α} {done : α → Answer} (h : WritesBelow base program) :
      Confined base files (answer done (program files)).2 := by
    have hprogram := h files
    cases hrun : program files with
    | ok a files' => rwa [hrun] at hprogram
    | error e files' => rwa [hrun] at hprogram
  -- what is done with an accepted key is done below the base directory
  have hsafe {α : Type} {key : String} {next : Path → Disk α}
      (h : ∀ rest, rest ≠ [] → WritesBelow base (next (base.path ++ rest))) :
      WritesBelow base (liftExcept (resolveSafePath base key) >>= next) := by
    cases hkey : resolveSafePath base key with
    | ok fullPath =>
      obtain ⟨-, -, -, rest, hrest, rfl, -⟩ := safe_iff.mp hkey
      exact h rest hrest
    | error e => exact fun files => .refl files
  have hmeta (rest : Path) (hrest : rest ≠ []) :
      metaPath (base.path ++ rest) = base.path ++ metaPath rest := by
    simp [metaPath, List.dropLast_append_of_ne_nil hrest, List.getLastD_eq_getLast?,
      List.getLast?_append_of_ne_nil _ hrest]
  have hmeta_ne (rest : Path) : metaPath rest ≠ [] := by simp [metaPath]
  cases op with
  | put key body contentType =>
    refine hafter (hsafe fun rest hrest => ?_)
    refine (writesBelow_mkdirs rest ?_).bind fun _ =>
      (writesBelow_writeFile hrest).bind fun _ => ?_
    · exact List.dropLast_prefix _
    · split
      · exact writesBelow_pure ()
      · rw [hmeta rest hrest]
        exact writesBelow_writeFile (hmeta_ne rest)
  | getStream key =>
    refine hafter (hsafe fun rest _ => WritesBelow.bind (.get fun _ => ?_) fun _ =>
      .get fun _ => ?_)
    · split
      · exact writesBelow_pure _
      · exact .get fun _ => writesBelow_throw _
    · split
      · exact writesBelow_pure _
      · exact writesBelow_throw _
      · exact (writesBelow_liftExcept _).bind fun _ => writesBelow_pure _
  | delete key =>
    refine hafter (hsafe fun rest hrest => (writesBelow_remove hrest).bind fun _ =>
      .get fun _ => ?_)
    rw [hmeta rest hrest]
    split
    · exact writesBelow_remove (hmeta_ne rest)
    · exact writesBelow_pure ()
  | existsKey key =>
    refine hafter ?_
    unfold existsKey
    split
    · exact .get fun _ => writesBelow_pure _
    · exact writesBelow_pure _

/-! ## A map of objects -/

/-- A key such as `randomUUID()` makes. -/
structure StorageName (key : String) : Prop where
  ne_empty : key ≠ ""
  plain : ∀ c ∈ key.toList, c ≠ '/' ∧ c ≠ '.' ∧ c ≠ '\x00'

/-- What the storage is for: content, and a content type that was given with it or before. -/
abbrev Objects := String → Option (List UInt8 × Option String)

def Objects.set (objects : Objects) (key : String) (object : Option (List UInt8 × Option String)) :
    Objects := fun k => if k = key then object else objects k

def Objects.perform (objects : Objects) : Operation → Answer × Objects
  | .put key body contentType => (.done, objects.set key
      (some (body, (contentType.filter (· ≠ "")).or ((objects key).bind (·.2)))))
  | .getStream key =>
    match objects key with
    | some (content, contentType) => (.stream (.file content) contentType, objects)
    | none => (.failed (.system "ENOENT"), objects)
  | .delete key =>
    match objects key with
    | some _ => (.done, objects.set key none)
    | none => (.failed (.system "ENOENT"), objects)
  | .existsKey key => (.found (objects key).isSome, objects)

def Objects.run (objects : Objects) : List Operation → List Answer × Objects
  | [] => ([], objects)
  | op :: ops =>
    let first := objects.perform op
    let rest := first.2.run ops
    (first.1 :: rest.1, rest.2)

def contentPath (base : BaseDir) (key : String) : Path := base.path ++ [key.toList]

def sidePath (base : BaseDir) (key : String) : Path :=
  base.path ++ [key.toList ++ ".meta".toList]

/-- **The files that stand for some objects.** -/
structure Represents (base : BaseDir) (codec : MetaCodec) (files : Files) (objects : Objects) :
    Prop where
  way : ∀ p, p <+: base.path → ∀ content, files p ≠ some (.file content)
  content : ∀ key, StorageName key →
    files (contentPath base key) = (objects key).map fun object => .file object.1
  side : ∀ key, StorageName key → files (sidePath base key) =
    ((objects key).bind (·.2)).map fun contentType => .file (codec.stringify contentType)

variable {objects : Objects} {name : String}

theorem safe_name (hname : StorageName name) :
    resolveSafePath base name = .ok (contentPath base name) := by
  have hslash : '/' ∉ name.toList := fun h => (hname.plain _ h).1 rfl
  have hdot : '.' ∉ name.toList := fun h => (hname.plain _ h).2.1 rfl
  have hne : name.toList ≠ [] := fun h => hname.ne_empty (String.toList_eq_nil_iff.mp h)
  have hhead : name.toList.head? ≠ some '/' := fun h => hslash (List.mem_of_mem_head? h)
  have hresolve : resolve base.path name.toList = contentPath base name := by
    have hplain : ¬(name.toList = [] ∨ name.toList = ['.']) := by
      rintro (h | h)
      · exact hne h
      · exact hdot (h ▸ List.mem_singleton_self _)
    have hup : name.toList ≠ up := fun h => hdot (h ▸ List.mem_cons_self)
    rw [resolve, List.splitOn_eq_singleton hslash, if_neg hhead]
    show enter base.path name.toList = _
    rw [enter, if_neg hplain, if_neg hup]
    rfl
  refine safe_iff.mpr ⟨hname.ne_empty, fun h => (hname.plain _ h).2.2 rfl, hresolve.symm,
    [name.toList], List.cons_ne_nil _ _, rfl, fun s hs hdots => ?_⟩
  rw [List.mem_singleton.mp hs] at hdots
  exact hdot (hdots.subset List.mem_cons_self)

theorem contentPath_inj {name' : String} (h : contentPath base name = contentPath base name') :
    name = name' :=
  String.toList_injective (List.singleton_injective (List.append_cancel_left h))

theorem sidePath_inj {name' : String} (h : sidePath base name = sidePath base name') :
    name = name' :=
  String.toList_injective (List.append_cancel_right (List.singleton_injective
    (List.append_cancel_left h)))

theorem contentPath_ne_sidePath (base : BaseDir) (hname : StorageName name) (name' : String) :
    contentPath base name ≠ sidePath base name' := by
  intro h
  have hsame : name.toList = name'.toList ++ ".meta".toList :=
    List.singleton_injective (List.append_cancel_left h)
  have hdot : '.' ∈ name.toList := by
    rw [hsame]
    exact List.mem_append_right _ List.mem_cons_self
  exact (hname.plain _ hdot).2.1 rfl

theorem metaPath_contentPath (name : String) :
    metaPath (contentPath base name) = sidePath base name := by
  simp [metaPath, contentPath, sidePath]

theorem not_prefix_base (last : Segment) : ¬base.path ++ [last] <+: base.path := fun h => by
  have hlength := h.length_le
  rw [List.length_append, List.length_singleton] at hlength
  omega

/-- Two entries of one object are replaced. -/
theorem Represents.update {object : Option (List UInt8 × Option String)}
    (h : Represents base codec files objects) (hname : StorageName name)
    (hother : ∀ p, p ≠ contentPath base name → p ≠ sidePath base name → files' p = files p)
    (hcontent : files' (contentPath base name) = object.map fun object => .file object.1)
    (hside : files' (sidePath base name) =
      (object.bind (·.2)).map fun contentType => .file (codec.stringify contentType)) :
    Represents base codec files' (objects.set name object) := by
  refine ⟨fun p hp => ?_, fun key hkey => ?_, fun key hkey => ?_⟩
  · rw [hother p]
    · exact h.way p hp
    · rintro rfl
      exact not_prefix_base _ hp
    · rintro rfl
      exact not_prefix_base _ hp
  · by_cases hsame : key = name
    · subst hsame
      rw [Objects.set, if_pos rfl, hcontent]
    · rw [Objects.set, if_neg hsame, hother _ (fun heq => hsame (contentPath_inj heq))
        (contentPath_ne_sidePath base hkey _), h.content key hkey]
  · by_cases hsame : key = name
    · subst hsame
      rw [Objects.set, if_pos rfl, hside]
    · rw [Objects.set, if_neg hsame, hother _ (contentPath_ne_sidePath base hname _).symm
        (fun heq => hsame (sidePath_inj heq)), h.side key hkey]

/-- The directories on the way to a file are made, if no file is in their place. -/
theorem mkdirs_ok (made : Path)
    (h : ∀ p, p <+: made ++ path → ∀ content, files p ≠ some (.file content)) :
    ∃ files', mkdirs made path files = .ok () files' := by
  induction path generalizing made files with
  | nil => exact ⟨files, rfl⟩
  | cons s path ih =>
    rw [List.append_cons] at h
    cases hentry : files (made ++ [s]) with
    | none =>
      rw [mkdirs_missing hentry]
      refine ih _ fun p hp content => ?_
      by_cases hsame : p = made ++ [s]
      · rw [hsame, Files.set_self]
        simp
      · rw [Files.set_of_ne _ _ hsame]
        exact h p hp content
    | some entry =>
      cases entry with
      | file content => exact absurd hentry (h _ (List.prefix_append _ _) content)
      | directory =>
        rw [mkdirs_directory hentry]
        exact ih _ h

/-- What is stored stays so when the directories on the way are made. -/
theorem Represents.mkdirs (h : Represents base codec files objects) :
    ∃ files', LocalFileStorage.mkdirs [] base.path files = .ok () files' ∧
      Represents base codec files' objects := by
  obtain ⟨files', hrun⟩ := mkdirs_ok [] h.way
  have hfiles' := mkdirs_after [] base.path files
  rw [hrun] at hfiles'
  have hbelow (last : Segment) : files' (base.path ++ [last]) = files (base.path ++ [last]) :=
    (hfiles' _).resolve_right fun hp => not_prefix_base last hp.1
  refine ⟨files', hrun, fun p hp content => ?_, fun key hkey => ?_, fun key hkey => ?_⟩
  · rcases hfiles' p with hkept | ⟨-, -, hmade⟩
    · exact fun hfile => h.way p hp content (hkept.symm.trans hfile)
    · exact fun hfile => by cases hmade.symm.trans hfile
  · exact (hbelow _).trans (h.content key hkey)
  · exact (hbelow _).trans (h.side key hkey)

theorem missing_name (h : Represents base codec files objects)
    (habsent : files (contentPath base name) = none) :
    missing files (contentPath base name) = .system "ENOENT" := by
  refine if_neg fun hany => ?_
  obtain ⟨p, hp, hfile⟩ := List.any_eq_true.mp hany
  rcases List.prefix_concat_iff.mp ((List.mem_inits _ _).mp hp) with rfl | hinit
  · change (match files (contentPath base name) with | some (.file _) => true | _ => false) =
      true at hfile
    rw [habsent] at hfile
    cases hfile
  · split at hfile
    · exact h.way p hinit _ ‹_›
    · cases hfile

theorem writeFile_ok {content : List UInt8} (h : files path ≠ some .directory) :
    writeFile path content files = .ok () (files.set path (some (.file content))) := by
  rw [writeFile, get_bind]
  cases hentry : files path with
  | none => rfl
  | some entry =>
    cases entry with
    | file => rfl
    | directory => exact absurd hentry h

theorem remove_ok {content : List UInt8} (h : files path = some (.file content)) :
    remove path files = .ok () (files.set path none) := by
  rw [remove, get_bind, h]
  rfl

theorem put_eq (name : String) (body : List UInt8) (contentType : Option String)
    (h : Represents base codec files objects) (hname : StorageName name) :
    ∃ files', put base codec name body contentType files = .ok () files' ∧
      Represents base codec files' (objects.set name
        (some (body, (contentType.filter (· ≠ "")).or ((objects name).bind (·.2))))) := by
  obtain ⟨files₁, hmade, h₁⟩ := h.mkdirs
  have hdirectory : files₁ (contentPath base name) ≠ some .directory := by
    rw [h₁.content name hname]
    cases objects name <;> simp
  have hparent : (contentPath base name).dropLast = base.path := List.dropLast_concat
  have hne := contentPath_ne_sidePath base hname name
  have hkept {entry : Option Entry} := (files₁.set_of_ne entry hne.symm).trans (h₁.side name hname)
  rw [put, safe_name hname, liftExcept, pure_bind, hparent, bind_ok hmade,
    bind_ok (writeFile_ok hdirectory), metaPath_contentPath]
  cases contentType.filter (· ≠ "") with
  | none =>
    exact ⟨_, rfl, h₁.update hname (fun p hp _ => Files.set_of_ne _ _ hp) (Files.set_self ..) hkept⟩
  | some given =>
    have hside : files₁.set (contentPath base name) (some (.file body)) (sidePath base name) ≠
        some .directory := by
      rw [hkept]
      cases (objects name).bind (·.2) <;> simp
    refine ⟨_, writeFile_ok hside, h₁.update hname (fun p hp hp' => ?_) ?_ (Files.set_self ..)⟩
    · rw [Files.set_of_ne _ _ hp', Files.set_of_ne _ _ hp]
    · rw [Files.set_of_ne _ _ hne, Files.set_self]
      rfl

/-- What is answered of an object that is not there. -/
theorem absent_eq (name : String) (h : Represents base codec files objects)
    (hname : StorageName name) (habsent : objects name = none) :
    getStream base codec name files = .error (.system "ENOENT") files ∧
      delete base name files = .error (.system "ENOENT") files := by
  have hcontent := h.content name hname
  rw [habsent] at hcontent
  have hmissing := missing_name h hcontent
  constructor
  · rw [getStream, safe_name hname, liftExcept, pure_bind]
    show EStateM.bind (stat _) _ _ = _
    rw [EStateM.bind, stat, get_bind, hcontent, ← hmissing]
    rfl
  · rw [delete, safe_name hname, liftExcept, pure_bind]
    show EStateM.bind (remove _) _ _ = _
    rw [EStateM.bind, remove, get_bind, hcontent, ← hmissing]
    rfl

theorem getStream_eq (name : String) {content : List UInt8} {contentType : Option String}
    (h : Represents base codec files objects) (hname : StorageName name)
    (hobject : objects name = some (content, contentType)) :
    getStream base codec name files = .ok (.file content, contentType) files := by
  have hcontent := h.content name hname
  have hside := h.side name hname
  rw [hobject] at hcontent hside
  have hstat : stat (contentPath base name) files = .ok (.file content) files := by
    rw [stat, get_bind, hcontent]
    rfl
  rw [getStream, safe_name hname, liftExcept, pure_bind, bind_ok hstat, get_bind,
    metaPath_contentPath, hside]
  cases contentType with
  | none => rfl
  | some contentType =>
    show (liftExcept (codec.parse (codec.stringify contentType)) >>= _) files = _
    rw [codec.parse_stringify]
    rfl

theorem delete_eq (name : String) {content : List UInt8} {contentType : Option String}
    (h : Represents base codec files objects) (hname : StorageName name)
    (hobject : objects name = some (content, contentType)) :
    ∃ files', delete base name files = .ok () files' ∧
      Represents base codec files' (objects.set name none) := by
  have hcontent := h.content name hname
  have hside := h.side name hname
  have hne := contentPath_ne_sidePath base hname name
  rw [hobject] at hcontent hside
  have hkept := (files.set_of_ne none hne.symm).trans hside
  rw [delete, safe_name hname, liftExcept, pure_bind, bind_ok (remove_ok hcontent), get_bind,
    metaPath_contentPath, hkept]
  cases contentType with
  | none =>
    exact ⟨_, rfl, h.update hname (fun p hp _ => Files.set_of_ne _ _ hp) (Files.set_self ..) hkept⟩
  | some contentType =>
    refine ⟨_, remove_ok hkept, h.update hname (fun p hp hp' => ?_) ?_ (Files.set_self ..)⟩
    · rw [Files.set_of_ne _ _ hp', Files.set_of_ne _ _ hp]
    · rw [Files.set_of_ne _ _ hne, Files.set_self]
      rfl

/-- **One operation answers as the map of objects does**, and leaves files that stand for it. -/
theorem perform_refines (h : Represents base codec files objects) {op : Operation}
    (hname : StorageName op.key) : (perform base codec files op).1 = (objects.perform op).1 ∧
      Represents base codec (perform base codec files op).2 (objects.perform op).2 := by
  cases op with
  | put key body contentType =>
    obtain ⟨files', hrun, hfiles'⟩ := put_eq key body contentType h hname
    rw [perform, hrun]
    exact ⟨rfl, hfiles'⟩
  | getStream key =>
    cases hobject : objects key with
    | none =>
      rw [perform, (absent_eq key h hname hobject).1, Objects.perform, hobject]
      exact ⟨rfl, h⟩
    | some object =>
      rw [perform, getStream_eq key h hname hobject, Objects.perform, hobject]
      exact ⟨rfl, h⟩
  | delete key =>
    cases hobject : objects key with
    | none =>
      rw [perform, (absent_eq key h hname hobject).2, Objects.perform, hobject]
      exact ⟨rfl, h⟩
    | some object =>
      obtain ⟨files', hrun, hfiles'⟩ := delete_eq key h hname hobject
      rw [perform, hrun, Objects.perform, hobject]
      exact ⟨rfl, hfiles'⟩
  | existsKey key =>
    have hcontent := h.content key hname
    have hrun : existsKey base key files = .ok (objects key).isSome files := by
      rw [existsKey, safe_name (show StorageName key from hname)]
      show EStateM.Result.ok (files (contentPath base key)).isSome files = _
      rw [hcontent, Option.isSome_map]
    rw [perform, hrun]
    exact ⟨rfl, h⟩

end LocalFileStorage

open LocalFileStorage

/-- **The keys that are accepted** are those of files below the base directory, on a path on
which no name begins with two dots. -/
theorem resolveSafePath_iff (base : BaseDir) (key : String) (fullPath : Path) :
    resolveSafePath base key = .ok fullPath ↔ key ≠ "" ∧ '\x00' ∉ key.toList ∧
      fullPath = resolve base.path key.toList ∧ ∃ rest, rest ≠ [] ∧ fullPath = base.path ++ rest ∧
        ∀ s ∈ rest, ¬up <+: s := safe_iff

/-- **The storage is a map of objects**, under the keys that the service makes: from a directory
without objects on, every history of operations is answered as the map answers it. -/
theorem refines_objects (base : BaseDir) (codec : MetaCodec) (files : Files)
    (ops : List Operation)
    (hway : ∀ p, p <+: base.path → ∀ content, files p ≠ some (.file content))
    (hempty : ∀ name, files (base.path ++ [name]) = none)
    (hnames : ∀ op ∈ ops, StorageName op.key) :
    (run base codec files ops).1 = (Objects.run (fun _ => none) ops).1 := by
  have hstart : Represents base codec files fun _ => none :=
    ⟨hway, fun key _ => hempty _, fun key _ => hempty _⟩
  generalize (fun _ => none : Objects) = objects at hstart ⊢
  clear hway hempty
  induction ops generalizing files objects with
  | nil => rfl
  | cons op ops ih =>
    obtain ⟨hanswer, hnext⟩ := perform_refines hstart (hnames op List.mem_cons_self)
    rw [run, Objects.run, hanswer, ih _ (fun op' hop' => hnames op' (List.mem_cons_of_mem op hop'))
      _ hnext]

namespace LocalFileStorage

theorem srv_segments : ∀ s ∈ ["srv".toList], IsSegment s := fun s hs => by
  rw [List.mem_singleton.mp hs]
  exact ⟨by decide, by decide, by decide, by decide⟩

def srv : BaseDir := ⟨["srv".toList], srv_segments⟩

def opening : List Char :=
  ['\x7b', '"', 'c', 'o', 'n', 't', 'e', 'n', 't', 'T', 'y', 'p', 'e', '"', ':', '"']

/-- The text of a side file, if no character of the content type is escaped in it. -/
def plainText (contentType : String) : String :=
  String.ofList (opening ++ contentType.toList ++ ['"'] ++ ['\x7d'])

def readPlain (text : List UInt8) : Except StorageError (Option String) :=
  match String.fromUTF8? ⟨text.toArray⟩ with
  | some text => .ok (some (String.ofList (text.toList.dropLast.dropLast.drop opening.length)))
  | none => .error (.error "SyntaxError")

theorem fromUTF8?_toByteArray (text : String) :
    String.fromUTF8? ⟨text.toByteArray.data.toList.toArray⟩ = some text := by
  have hbytes : (⟨text.toByteArray.data.toList.toArray⟩ : ByteArray) = text.toByteArray :=
    ByteArray.ext Array.toArray_toList
  rw [hbytes]
  exact dif_pos text.isValidUTF8

theorem readPlain_plainText (contentType : String) :
    readPlain (plainText contentType).toByteArray.data.toList = .ok (some contentType) := by
  rw [readPlain, fromUTF8?_toByteArray, plainText]
  simp only [String.toList_ofList, List.dropLast_concat, List.drop_left, String.ofList_toList]

def plainCodec : MetaCodec :=
  ⟨fun contentType => (plainText contentType).toByteArray.data.toList, readPlain,
    readPlain_plainText⟩

end LocalFileStorage

/-- An image that is written again without its content type, and read. -/
theorem refines_objects_rewritten :
    (run srv plainCodec (fun _ => none)
      [.put "0a" [1] (some "image/png"), .put "0a" [2] none, .getStream "0a"]).1 =
      [.done, .done, .stream (.file [2]) (some "image/png")] :=
  (refines_objects _ _ _ _ (fun _ _ _ h => by cases h) (fun _ => rfl) (by
    have hname : StorageName "0a" := by
      refine ⟨by decide, fun c hc => ?_⟩
      obtain rfl | rfl := (List.mem_pair (a := c)).mp (show c ∈ ['0', 'a'] from hc) <;> decide
    intro op hop
    simp only [List.mem_cons, List.not_mem_nil, or_false] at hop
    rcases hop with rfl | rfl | rfl
    · exact hname
    · exact hname
    · exact hname)).trans rfl

end Eudiplo
