import CathedralCompute.Platform
import CathedralCompute.Semantics.FileTree
import Mathlib.Data.Finset.Insert

/-!
# Paths a privileged process may trust

The inspection of a path and its ancestors, and the inspection that follows symbolic
links by rewriting the path, one link at a time. The rewriting is lexical: a `..` cancels
the part before it, and what stands there is never looked at. So the verdict speaks for
the path that the system resolves as long as each `..` leaves a real directory that is
safe.

## Main definitions

* `inspectPath` — a path and its ancestors, no link followed
* `inspectResolvedPath` — the links that lead to a file

## Main results

* `trusted_resolution` — where each `..` leaves a safe directory, resolution is safe if
  the verdict says so
* `not_trusted_resolution_dropped` — a trusted path through a link that anyone may
  redirect
-/

set_option autoImplicit false

namespace Cathedral.PrivilegedPaths

open Codec Semantics

/-! ## File systems -/

/-- The links the system follows in one resolution. -/
def systemLinks : ℕ := 40

/-- The links an inspection follows. -/
def maxSymlinks : ℕ := 40

/-- The access-control list of an object, as far as it can be read. -/
inductive Acl where
  | absent
  | extended
  | unknown
  deriving DecidableEq

/-- Owner, permission bits and access-control list. -/
structure Stat where
  uid : ℕ
  mode : ℕ
  acl : Acl
  deriving DecidableEq

/-- The write bit of the group. -/
def groupWrite : ℕ := 0o020

/-- The write bit of everyone else. -/
def otherWrite : ℕ := 0o002

/-- A process in a directory of a file system. -/
structure Process where
  files : FileTree Text Stat
  cwd : List Text
  cwd_directory : files.IsDirectory cwd

/-! ## Path texts -/

/-- What stands between two slashes of a path text. -/
def partOf (text : Text) : Semantics.Part Text :=
  if text = [] ∨ text = "." then .stay else if text = ".." then .up else .name text

def slash : CodePoint := .ofNat _ '/'.toNat

/-- A path text by its parts. -/
def routeOf (text : Text) : Route Text where
  slashes := (text.takeWhile (· = slash)).length
  parts := (text.splitOn slash).map partOf

/-- An absolute path without empty parts and dots. Two leading slashes are kept. -/
structure AbsolutePath where
  doubled : Bool
  names : List Text
  deriving DecidableEq

/-- The path made absolute and normalized by its text alone. -/
def abspath (cwd : List Text) (route : Route Text) : AbsolutePath where
  doubled := route.slashes = 2
  names := normalize (route.start cwd) route.parts

/-- A destination beside a link, with the names that follow the link. -/
def redirect (link : AbsolutePath) (destination : Route Text) (tail : List Text) :
    AbsolutePath where
  doubled := if destination.absolute then destination.slashes = 2 else link.doubled
  names := normalize (destination.start link.names.dropLast)
    (destination.parts ++ tail.map .name)

/-- The ancestors of a path, nearest first. -/
def parents (path : AbsolutePath) : List AbsolutePath :=
  (List.range path.names.length).reverse.map fun count =>
    { path with names := path.names.take count }

/-! ## Inspection of a path -/

/-- A reason not to trust a path. -/
inductive Violation where
  /-- "is owned by" -/
  | owned (component : AbsolutePath) (uid : ℕ)
  /-- "is group- or world-writable", or only "world-writable" -/
  | writable (component : AbsolutePath) (allowGroupWrite : Bool) (mode : ℕ)
  /-- "has an extended ACL", or "ACL safety cannot be established" -/
  | acl (component : AbsolutePath) (acl : Acl)
  /-- "does not exist" -/
  | missing (component : AbsolutePath)
  /-- "cannot be inspected" -/
  | uninspected (component : AbsolutePath) (errno : FileTree.Errno)
  /-- "is a symlink" -/
  | symlink (component : AbsolutePath)
  /-- "is not a regular file" -/
  | notRegularFile (component : AbsolutePath)
  /-- "is not a directory" -/
  | notDirectory (component : AbsolutePath)
  /-- "forms a symlink cycle" -/
  | cycle (link : AbsolutePath)
  /-- "cannot be read" -/
  | unreadable (link : AbsolutePath) (errno : FileTree.Errno)
  /-- "exceeds the 40-link safety limit" -/
  | tooManyLinks (original : AbsolutePath)
  deriving DecidableEq

/-- The reasons not to trust a target. -/
structure PathVerdict where
  target : AbsolutePath
  violations : List Violation

def PathVerdict.Trusted (verdict : PathVerdict) : Prop := verdict.violations = []

instance (verdict : PathVerdict) : Decidable verdict.Trusted :=
  inferInstanceAs (Decidable (_ = _))

/-- The keywords of an inspection. -/
structure Options where
  trusted : Finset ℕ
  requireFile : Bool := true
  allowGroupWrite : Bool := false
  allowLeafSymlink : Bool := false

def aclViolations (component : AbsolutePath) (info : Stat) : List Violation :=
  if info.acl = .absent then [] else [.acl component info.acl]

def modeViolations (options : Options) (component : AbsolutePath) (info : Stat)
    (checkWritableBits checkAcl : Bool) : List Violation :=
  let writableBits := if options.allowGroupWrite then otherWrite else groupWrite ||| otherWrite
  (if info.uid ∈ options.trusted then [] else [.owned component info.uid]) ++
  (if checkWritableBits ∧ info.mode &&& writableBits ≠ 0
    then [.writable component options.allowGroupWrite info.mode] else []) ++
  if checkAcl then aclViolations component info else []

/-- What an inspection finds at a component; the first component is the target. -/
def componentViolations (files : FileTree Text Stat) (options : Options) (first : Bool)
    (component : AbsolutePath) : List Violation :=
  match files.lstat systemLinks component.names with
  | .error .missing => [.missing component]
  | .error errno => [.uninspected component errno]
  | .ok (.link info _) =>
    (if first ∧ options.allowLeafSymlink then [] else [.symlink component]) ++
    -- Mode bits and lists of links control nothing.
    modeViolations options component info false false
  | .ok object =>
    modeViolations options component object.info true true ++
    if first ∧ options.requireFile
      then if object.isFile then [] else [.notRegularFile component]
      else if object.isDirectory then [] else [.notDirectory component]

def requireTrustedUids (trusted : Finset ℕ) : Except Failure Unit :=
  require (trusted.Nonempty) (.valueError "at least one trusted uid is required")

def inspectPath (files : FileTree Text Stat) (options : Options) (target : AbsolutePath) :
    Except Failure PathVerdict := do
  requireTrustedUids options.trusted
  return {
    target
    violations := componentViolations files options true target ++
      (parents target).flatMap (componentViolations files options false) }

/-! ## Inspection of links -/

/-- The first link among the components, and the names under it. -/
def firstSymlinkFrom (files : FileTree Text Stat) (current : AbsolutePath) :
    List Text → Option (AbsolutePath × List Text)
  | [] => none
  | part :: tail =>
    let next := { current with names := current.names ++ [part] }
    match files.lstat systemLinks next.names with
    | .error _ => none
    | .ok (.link _ _) => some (next, tail)
    | .ok _ => firstSymlinkFrom files next tail

def firstSymlink (files : FileTree Text Stat) (target : AbsolutePath) :
    Option (AbsolutePath × List Text) :=
  firstSymlinkFrom files { target with names := [] } target.names

def readlink (files : FileTree Text Stat) (link : AbsolutePath) :
    Except FileTree.Errno (Route Text) :=
  match files.lstat systemLinks link.names with
  | .ok (.link _ text) => .ok text
  | .ok _ => .error .missing
  | .error errno => .error errno

/-- The verdict with each reason once. -/
def verdictOf (target : AbsolutePath) (violations : List Violation) : PathVerdict where
  target
  violations := violations.eraseDups

/-- The loop over the links, for a number of rounds. -/
def followLinks (files : FileTree Text Stat) (trusted : Finset ℕ) (allowGroupWrite : Bool)
    (original : AbsolutePath) :
    ℕ → AbsolutePath → List AbsolutePath → List Violation → Except Failure PathVerdict
  | 0, _, _, violations => .ok (verdictOf original (violations ++ [.tooManyLinks original]))
  | rounds + 1, current, seen, violations =>
    match firstSymlink files current with
    | none =>
      (inspectPath files { trusted, allowGroupWrite } current).map fun final =>
        verdictOf original (violations ++ final.violations)
    | some (link, tail) =>
      if link ∈ seen then .ok (verdictOf original (violations ++ [.cycle link])) else
      (inspectPath files { trusted, requireFile := false, allowGroupWrite, allowLeafSymlink := true }
          link).bind fun linkVerdict =>
        let violations := violations ++ linkVerdict.violations
        match readlink files link with
        | .error errno => .ok (verdictOf original (violations ++ [.unreadable link errno]))
        | .ok destination =>
          followLinks files trusted allowGroupWrite original rounds
            (redirect link destination tail) (link :: seen) violations

/-- Inspect the links that lead to a file, and the file. -/
def inspectResolvedPath (process : Process) (trusted : Finset ℕ) (allowGroupWrite : Bool)
    (target : Text) : Except Failure PathVerdict := do
  requireTrustedUids trusted
  let original := abspath process.cwd (routeOf target)
  followLinks process.files trusted allowGroupWrite original (maxSymlinks + 1) original [] []

/-! ## What a trusted verdict says of a path -/

/-- What a process may trust: the owner, and unless it is a link, that nobody else may
write and no access-control list says otherwise. -/
def Safe (trusted : Finset ℕ) (object : Object Text Stat) : Prop :=
  object.info.uid ∈ trusted ∧
    (object.isLink = false →
      object.info.mode &&& groupWrite = 0 ∧ object.info.mode &&& otherWrite = 0 ∧
        object.info.acl = .absent)

/-- A safe directory stands at the path. -/
def SafeDirectory (files : FileTree Text Stat) (trusted : Finset ℕ) (path : List Text) : Prop :=
  ∃ info, files.object path = some (.directory info) ∧ Safe trusted (.directory info)

theorem SafeDirectory.isDirectory {files : FileTree Text Stat} {trusted : Finset ℕ}
    {path : List Text} (safe : SafeDirectory files trusted path) : files.IsDirectory path :=
  let ⟨info, there, _⟩ := safe
  ⟨info, there⟩

variable {files : FileTree Text Stat} {options : Options} {component target : AbsolutePath}

theorem uid_of_modeViolations {info : Stat} {bits acl : Bool}
    (none : modeViolations options component info bits acl = []) :
    info.uid ∈ options.trusted := by
  by_contra stranger
  simp [modeViolations, stranger] at none

theorem safe_of_modeViolations {object : Object Text Stat} (strict : options.allowGroupWrite = false)
    (none : modeViolations options component object.info true true = []) :
    Safe options.trusted object := by
  refine ⟨uid_of_modeViolations none, fun _ => ?_⟩
  simp only [modeViolations, strict, aclViolations, List.append_eq_nil_iff] at none
  obtain ⟨⟨-, writable⟩, acl⟩ := none
  simp only [Bool.false_eq_true, if_false, Nat.and_or_distrib_left, true_and, ne_eq,
    Nat.or_eq_zero_iff] at writable
  refine ⟨?_, ?_, ?_⟩
  · by_contra bit
    simp [bit] at writable
  · by_contra bit
    simp [bit] at writable
  · by_contra list
    simp [list] at acl

/-- An ancestor without a violation is a safe directory. -/
theorem safeDirectory_of_component {object : Object Text Stat}
    (strict : options.allowGroupWrite = false)
    (none : componentViolations files options false component = [])
    (stat : files.lstat systemLinks component.names = .ok object) :
    object.isDirectory = true ∧ Safe options.trusted object := by
  unfold componentViolations at none
  rw [stat] at none
  cases object with
  | link info text => simp at none
  | file info => simp [Object.isDirectory] at none
  | directory info =>
    simp only [Bool.false_eq_true, false_and, if_false, List.append_eq_nil_iff] at none
    have safe : Safe options.trusted (.directory info) := safe_of_modeViolations strict none.1
    exact ⟨rfl, safe⟩

/-- The object at a path under directories. -/
theorem object_of_lstat {path : List Text} {object : Object Text Stat} (led : files.LedTo path)
    (stat : files.lstat systemLinks path = .ok object) : files.object path = some object := by
  cases path using List.reverseRecOn with
  | nil =>
    obtain ⟨info, root⟩ := files.root_directory
    simp only [FileTree.lstat, List.getLast?_nil, root] at stat
    obtain rfl := Except.ok.inj stat
    exact root
  | append_singleton path name =>
    rw [FileTree.lstat_eq (led path (List.prefix_append ..) (by simp))] at stat
    cases there : files.object (path ++ [name]) with
    | none => simp [there] at stat
    | some found =>
      rw [there] at stat
      exact congrArg some (Except.ok.inj stat)

theorem mem_parents {front : List Text} (leads : front <+: target.names)
    (proper : front ≠ target.names) : { target with names := front } ∈ parents target := by
  have taken : target.names.take front.length = front := (List.prefix_iff_eq_take.mp leads).symm
  have shorter : front.length < target.names.length :=
    lt_of_le_of_ne leads.length_le fun same => proper (leads.eq_of_length same)
  exact List.mem_map.mpr ⟨front.length, by simpa using shorter, by rw [taken]⟩

theorem violations_of_inspectPath {verdict : PathVerdict}
    (run : inspectPath files options target = .ok verdict) (trusted : verdict.Trusted) :
    componentViolations files options true target = [] ∧
      ∀ parent ∈ parents target, componentViolations files options false parent = [] := by
  obtain ⟨_, -, rest⟩ := bind_eq_ok.mp run
  obtain rfl := Except.ok.inj rest
  simp only [PathVerdict.Trusted, List.append_eq_nil_iff, List.flatMap_eq_nil_iff] at trusted
  exact trusted

/-- The ancestors of a trusted path are safe directories. -/
theorem ancestors_safe {verdict : PathVerdict} (strict : options.allowGroupWrite = false)
    (run : inspectPath files options target = .ok verdict) (trusted : verdict.Trusted)
    {front : List Text} (leads : front <+: target.names) (proper : front ≠ target.names) :
    SafeDirectory files options.trusted front := by
  have inspected {front : List Text} (leads : front <+: target.names)
      (proper : front ≠ target.names) (led : files.LedTo front) :
      SafeDirectory files options.trusted front := by
    have none := (violations_of_inspectPath run trusted).2 _ (mem_parents leads proper)
    cases stat : files.lstat systemLinks front with
    | error errno => cases errno <;> simp [componentViolations, stat] at none
    | ok object =>
      obtain ⟨directory, safe⟩ := safeDirectory_of_component strict none stat
      have there := object_of_lstat led stat
      rw [object.eq_directory directory] at safe there
      exact ⟨object.info, there, safe⟩
  -- From the root on, each ancestor stands in a directory.
  induction front using List.reverseRecOn with
  | nil => exact inspected leads proper FileTree.ledTo_nil
  | append_singleton front name ih =>
    have shorter : front <+: target.names := (List.prefix_append ..).trans leads
    have above := ih shorter fun same => by
      have bound := leads.length_le
      simp [same] at bound
    exact inspected leads proper (above.isDirectory.ledTo name)

theorem ledTo_of_inspectPath {verdict : PathVerdict} (strict : options.allowGroupWrite = false)
    (run : inspectPath files options target = .ok verdict) (trusted : verdict.Trusted) :
    files.LedTo target.names := fun _ leads proper =>
  (ancestors_safe strict run trusted leads proper).isDirectory

/-- A trusted regular file. -/
theorem file_of_inspectPath {verdict : PathVerdict} (strict : options.allowGroupWrite = false)
    (file : options.requireFile = true) (followed : options.allowLeafSymlink = false)
    (run : inspectPath files options target = .ok verdict) (trusted : verdict.Trusted) :
    ∃ info, files.object target.names = some (.file info) ∧ Safe options.trusted (.file info) := by
  have none := (violations_of_inspectPath run trusted).1
  have led := ledTo_of_inspectPath strict run trusted
  cases stat : files.lstat systemLinks target.names with
  | error errno => cases errno <;> simp [componentViolations, stat] at none
  | ok object =>
    have there := object_of_lstat led stat
    simp only [componentViolations, stat, file, followed] at none
    cases object with
    | link info text => simp at none
    | directory info => simp [Object.isFile] at none
    | file info =>
      simp only [List.append_eq_nil_iff] at none
      have safe : Safe options.trusted (.file info) := safe_of_modeViolations strict none.1
      exact ⟨info, there, safe⟩

/-- A trusted link. -/
theorem link_of_inspectPath {verdict : PathVerdict} {info : Stat} {text : Route Text}
    (run : inspectPath files options target = .ok verdict) (trusted : verdict.Trusted)
    (stat : files.lstat systemLinks target.names = .ok (.link info text)) :
    Safe options.trusted (.link info text) := by
  have none := (violations_of_inspectPath run trusted).1
  simp only [componentViolations, stat, List.append_eq_nil_iff] at none
  exact ⟨uid_of_modeViolations none.2, by simp [Object.isLink]⟩

/-! ## What a trusted verdict says of resolution -/

/-- Resolution ends at a regular file, and all it visits is safe. -/
def SafelyResolved (files : FileTree Text Stat) (trusted : Finset ℕ)
    (resolved : List (List Text) × Except FileTree.Errno (List Text)) : Prop :=
  (∃ path info, resolved.2 = .ok path ∧ files.object path = some (.file info)) ∧
    ∀ path ∈ resolved.1, ∃ object, files.object path = some object ∧ Safe trusted object

/-- Normalization of a text goes where resolution goes: each `..` leaves a real directory
that is safe or already known, and no empty part and no dot follows a file. -/
structure Straight (files : FileTree Text Stat) (trusted : Finset ℕ)
    (stage : FileTree.Stage Text) : Prop where
  leaves : ∀ before after, stage.parts = before ++ .up :: after →
    ∃ info, files.object (normalize stage.start before) = some (.directory info) ∧
      (normalize stage.start before <+: stage.known ∨ Safe trusted (.directory info))
  named : stage.parts.getLast? = some .stay →
    ∀ info, files.object (normalize stage.start stage.parts) ≠ some (.file info)

/-- The stages the system goes through from a path text. -/
def stagesOf (process : Process) (target : Text) : List (FileTree.Stage Text) :=
  process.files.stages systemLinks
    { start := (routeOf target).start process.cwd, parts := (routeOf target).parts, known := [] }

variable {trusted : Finset ℕ} {stage : FileTree.Stage Text}

theorem Straight.leavesDirectories (straight : Straight files trusted stage) :
    files.LeavesDirectories stage.start stage.parts := fun before after split =>
  let ⟨info, there, _⟩ := straight.leaves before after split
  ⟨info, there⟩

/-- A stage visits only what is safe, if it stops at something safe in safe directories. -/
theorem safe_of_visited {stop tail : List Text} {object : Object Text Stat}
    (straight : Straight files trusted stage)
    (known : ∀ front, front <+: stage.known → front ≠ [] → SafeDirectory files trusted front)
    (stops : (files.scan stage.start stage.parts).2 = .arrived stop ∨
      ∃ text rest, (files.scan stage.start stage.parts).2 = .link stop text rest)
    (ends : normalize stage.start stage.parts = stop ++ tail)
    (there : files.object stop = some object) (other : object.isDirectory = false)
    (safe : Safe trusted object)
    (above : ∀ front, front <+: stop → front ≠ stop → SafeDirectory files trusted front)
    {path : List Text} (visited : path ∈ (files.scan stage.start stage.parts).1) :
    ∃ object, files.object path = some object ∧ Safe trusted object := by
  have stands := FileTree.not_isDirectory_of_eq there other
  have ancestor {front : List Text} (found : SafeDirectory files trusted front) :
      ∃ object, files.object front = some object ∧ Safe trusted object :=
    let ⟨info, there, safe⟩ := found
    ⟨.directory info, there, safe⟩
  obtain leads | ⟨before, after, split, left⟩ :=
    FileTree.mem_scan_of_stop visited stops ends stands
  · by_cases same : path = stop
    · exact ⟨object, same ▸ there, safe⟩
    · exact ancestor (above path leads same)
  · obtain ⟨info, directory, near | safe⟩ := straight.leaves before after split
    all_goals rw [left] at directory
    · rw [left] at near
      by_cases root : path = []
      · refine ancestor (above path (root ▸ List.nil_prefix) fun same => stands ?_)
        exact same ▸ ⟨info, directory⟩
      · exact ancestor (known path near root)
    · exact ⟨.directory info, directory, safe⟩

theorem firstSymlinkFrom_eq_some {current link : AbsolutePath} {names tail : List Text}
    (found : firstSymlinkFrom files current names = some (link, tail)) :
    current.names ++ names = link.names ++ tail ∧
      ∃ info text, files.lstat systemLinks link.names = .ok (.link info text) := by
  induction names generalizing current with
  | nil => cases found
  | cons part names ih =>
    have onward (more : firstSymlinkFrom files { current with names := current.names ++ [part] }
        names = some (link, tail)) :
        current.names ++ part :: names = link.names ++ tail ∧
          ∃ info text, files.lstat systemLinks link.names = .ok (.link info text) := by
      obtain ⟨split, stat⟩ := ih more
      exact ⟨by simpa using split, stat⟩
    simp only [firstSymlinkFrom] at found
    cases stat : files.lstat systemLinks (current.names ++ [part]) with
    | error errno => simp [stat] at found
    | ok object =>
      rw [stat] at found
      cases object with
      | directory info => exact onward found
      | file info => exact onward found
      | link info text =>
        obtain ⟨rfl, rfl⟩ := Prod.mk.inj (Option.some.inj found)
        exact ⟨by simp, info, text, stat⟩

theorem trusted_verdictOf {original : AbsolutePath} {violations : List Violation} :
    (verdictOf original violations).Trusted ↔ violations = [] := by
  cases violations with
  | nil => simp [PathVerdict.Trusted, verdictOf]
  | cons violation violations =>
    simp [PathVerdict.Trusted, verdictOf, List.eraseDups_cons]

/-- The last stage of a trusted run. -/
theorem safelyResolved_of_final {links : ℕ} {current : AbsolutePath} {verdict : PathVerdict}
    (start : files.IsDirectory stage.start)
    (known : ∀ front, front <+: stage.known → front ≠ [] → SafeDirectory files trusted front)
    (position : current.names = normalize stage.start stage.parts)
    (straight : Straight files trusted stage)
    (run : inspectPath files { trusted } current = .ok verdict) (ok : verdict.Trusted) :
    SafelyResolved files trusted (files.resolve links stage.start stage.parts) := by
  obtain ⟨info, file, safe⟩ := file_of_inspectPath rfl rfl rfl run ok
  have above front (leads : front <+: current.names) (proper : front ≠ current.names) :=
    ancestors_safe rfl run ok leads proper
  have led := ledTo_of_inspectPath rfl run ok
  rw [position] at file above led
  have stop := FileTree.scan_final start straight.leavesDirectories led file
    fun last => straight.named last info file
  have visits := fun path visited => @safe_of_visited _ _ _ _ [] _ straight known
    (.inl stop) (List.append_nil _).symm file rfl safe above path visited
  rw [FileTree.resolve_of_arrived stop]
  exact ⟨⟨_, info, rfl, file⟩, visits⟩

/-- A loop that ends well has found nothing before. -/
theorem followLinks_clean {rounds : ℕ} {original current : AbsolutePath}
    {seen : List AbsolutePath} {violations : List Violation} {verdict : PathVerdict}
    (run : followLinks files trusted false original rounds current seen violations = .ok verdict)
    (ok : verdict.Trusted) : violations = [] := by
  induction rounds generalizing current seen violations with
  | zero =>
    obtain rfl := Except.ok.inj run
    simp [trusted_verdictOf] at ok
  | succ rounds ih =>
    rw [followLinks] at run
    cases found : firstSymlink files current with
    | none =>
      rw [found] at run
      obtain ⟨final, -, rfl⟩ := map_eq_ok.mp run
      exact (List.append_eq_nil_iff.mp (trusted_verdictOf.mp ok)).1
    | some pair =>
      rw [found] at run
      simp only at run
      split at run
      · obtain rfl := Except.ok.inj run
        simp [trusted_verdictOf] at ok
      · obtain ⟨linkVerdict, -, onward⟩ := bind_eq_ok.mp run
        cases destination : readlink files pair.1 with
        | error errno =>
          rw [destination] at onward
          obtain rfl := Except.ok.inj onward
          simp [trusted_verdictOf] at ok
        | ok text =>
          rw [destination] at onward
          exact (List.append_eq_nil_iff.mp (ih onward)).1

/-- A round of a loop that ends well: the last one, or one past a trusted link. -/
theorem followLinks_cases {rounds : ℕ} {original current : AbsolutePath}
    {seen : List AbsolutePath} {violations : List Violation} {verdict : PathVerdict}
    (run : followLinks files trusted false original (rounds + 1) current seen violations =
      .ok verdict) (ok : verdict.Trusted) :
    (∃ final, inspectPath files { trusted } current = .ok final ∧ final.Trusted) ∨
    ∃ link tail info text linkVerdict violations,
      current.names = link.names ++ tail ∧
      files.lstat systemLinks link.names = .ok (.link info text) ∧
      inspectPath files { trusted, requireFile := false, allowLeafSymlink := true } link =
        .ok linkVerdict ∧ linkVerdict.Trusted ∧
      followLinks files trusted false original rounds (redirect link text tail) (link :: seen)
        violations = .ok verdict := by
  rw [followLinks] at run
  cases found : firstSymlink files current with
  | none =>
    rw [found] at run
    obtain ⟨final, inspected, rfl⟩ := map_eq_ok.mp run
    have clean := (List.append_eq_nil_iff.mp (trusted_verdictOf.mp ok)).2
    exact .inl ⟨final, inspected, clean⟩
  | some pair =>
    obtain ⟨link, tail⟩ := pair
    obtain ⟨split, info, text, stat⟩ := firstSymlinkFrom_eq_some found
    have read : readlink files link = .ok text := by simp [readlink, stat]
    rw [found] at run
    simp only [read] at run
    split at run
    · obtain rfl := Except.ok.inj run
      simp [trusted_verdictOf] at ok
    · obtain ⟨linkVerdict, inspected, onward⟩ := bind_eq_ok.mp run
      have clean := (List.append_eq_nil_iff.mp (followLinks_clean onward ok)).2
      exact .inr ⟨link, tail, info, text, linkVerdict, _, split, stat, inspected, clean, onward⟩

/-- A trusted run resolves safely from every stage on. -/
theorem safelyResolved_of_followLinks {links : ℕ} {original current : AbsolutePath}
    {seen : List AbsolutePath} {violations : List Violation} {verdict : PathVerdict}
    (start : files.IsDirectory stage.start)
    (known : ∀ front, front <+: stage.known → front ≠ [] → SafeDirectory files trusted front)
    (position : current.names = normalize stage.start stage.parts)
    (straight : ∀ later ∈ files.stages links stage, Straight files trusted later)
    (run : followLinks files trusted false original (links + 1) current seen violations =
      .ok verdict) (ok : verdict.Trusted) :
    SafelyResolved files trusted (files.resolve links stage.start stage.parts) := by
  induction links generalizing stage current seen violations with
  | zero =>
    obtain ⟨final, inspected, clean⟩ | ⟨_, _, _, _, _, _, _, _, _, _, onward⟩ :=
      followLinks_cases run ok
    · exact safelyResolved_of_final start known position
        (straight stage (FileTree.mem_stages _ _)) inspected clean
    · obtain rfl := Except.ok.inj onward
      simp [trusted_verdictOf] at ok
  | succ links ih =>
    have here := straight stage (FileTree.mem_stages _ _)
    obtain ⟨final, inspected, clean⟩ |
      ⟨link, tail, info, text, linkVerdict, _, split, stat, inspected, clean, onward⟩ :=
      followLinks_cases run ok
    · exact safelyResolved_of_final start known position here inspected clean
    · -- a link: the ancestors are safe, and the walk of the text stops at it
      have led := ledTo_of_inspectPath rfl inspected clean
      have there := object_of_lstat led stat
      have above front (leads : front <+: link.names) (proper : front ≠ link.names) :=
        ancestors_safe rfl inspected clean leads proper
      have goes := position.symm.trans split
      obtain ⟨rest, stop, plain, names⟩ :=
        FileTree.scan_link start here.leavesDirectories goes led there
      have visits := fun path visited => @safe_of_visited _ _ _ _ _ _ here known
        (.inr ⟨text, rest, stop⟩) goes there rfl
        (link_of_inspectPath inspected clean stat) above path visited
      rw [FileTree.stages_of_link stop] at straight
      -- the next stage starts at the directory of the link
      have onwards : SafelyResolved files trusted
          (files.resolve links (text.start link.names.dropLast) (text.parts ++ rest)) := by
        refine @ih (.ofLink link.names text rest) _ _ _ ?_ ?_ ?_ ?_ onward
        · show files.IsDirectory (text.start link.names.dropLast)
          unfold Route.start
          split
          · exact files.root_directory
          · exact FileTree.isDirectory_dropLast (by rw [there]; rfl)
        · -- its ancestors were inspected with the link
          intro front leads nonempty
          refine above front (leads.trans (List.dropLast_prefix _)) fun same => nonempty ?_
          have bound := (same ▸ leads : link.names <+: link.names.dropLast).length_le
          rw [List.length_dropLast] at bound
          rw [same]
          exact List.eq_nil_of_length_eq_zero (by omega)
        · -- the inspected path names the same place as the stretch that remains
          show normalize _ (text.parts ++ tail.map .name) = normalize _ (text.parts ++ rest)
          rw [normalize_append, normalize_append, normalize_names, normalize_of_no_up plain, names]
          rfl
        · exact fun later member => straight later (List.mem_cons_of_mem _ member)
      rw [FileTree.resolve_of_link stop]
      obtain ⟨ends, later⟩ := onwards
      refine ⟨ends, fun path visited => ?_⟩
      obtain now | next := List.mem_append.mp visited
      · exact visits path now
      · exact later path next

theorem inspectPath_eq_ok (files : FileTree Text Stat) {options : Options}
    (someone : options.trusted.Nonempty) (target : AbsolutePath) :
    ∃ verdict, inspectPath files options target = .ok verdict :=
  ⟨_, bind_eq_ok.mpr ⟨(), require_eq_ok.mpr someone, rfl⟩⟩

/-- The loop comes to a verdict. -/
theorem followLinks_eq_ok (someone : trusted.Nonempty) (rounds : ℕ)
    (original current : AbsolutePath) (seen : List AbsolutePath) (violations : List Violation) :
    ∃ verdict, followLinks files trusted false original rounds current seen violations =
      .ok verdict := by
  induction rounds generalizing current seen violations with
  | zero => exact ⟨_, rfl⟩
  | succ rounds ih =>
    rw [followLinks]
    cases firstSymlink files current with
    | none =>
      obtain ⟨final, inspected⟩ := @inspectPath_eq_ok files { trusted } someone current
      exact ⟨_, map_eq_ok.mpr ⟨final, inspected, rfl⟩⟩
    | some pair =>
      obtain ⟨link, tail⟩ := pair
      simp only
      split
      · exact ⟨_, rfl⟩
      · obtain ⟨linkVerdict, inspected⟩ := @inspectPath_eq_ok files
          { trusted, requireFile := false, allowLeafSymlink := true } someone link
        rw [inspected]
        simp only [Except.bind]
        cases readlink files link with
        | error errno => exact ⟨_, rfl⟩
        | ok destination => exact ih _ _ _

/-- The system resolves a path text. -/
def systemResolve (process : Process) (target : Text) :
    List (List Text) × Except FileTree.Errno (List Text) :=
  process.files.resolve systemLinks ((routeOf target).start process.cwd) (routeOf target).parts

/-- **Trusted resolution.** If each `..` leaves a real directory that is safe or already
known, and nothing follows the file, a trusted verdict says that the system resolves the
path safely. -/
theorem trusted_resolution (process : Process) {trusted : Finset ℕ} (someone : trusted.Nonempty)
    (target : Text)
    (straight : ∀ stage ∈ stagesOf process target, Straight process.files trusted stage) :
    ∃ verdict, inspectResolvedPath process trusted false target = .ok verdict ∧
      (verdict.Trusted → SafelyResolved process.files trusted (systemResolve process target)) := by
  have start : process.files.IsDirectory ((routeOf target).start process.cwd) := by
    unfold Route.start
    split
    · exact process.files.root_directory
    · exact process.cwd_directory
  obtain ⟨verdict, run⟩ := @followLinks_eq_ok process.files _ someone (maxSymlinks + 1)
    (abspath process.cwd (routeOf target)) (abspath process.cwd (routeOf target)) [] []
  have inspected : inspectResolvedPath process trusted false target = .ok verdict :=
    bind_eq_ok.mpr ⟨(), require_eq_ok.mpr someone, run⟩
  have onlyRoot front (leads : front <+: ([] : List Text)) (nonempty : front ≠ []) :
      SafeDirectory process.files trusted front := absurd (List.prefix_nil.mp leads) nonempty
  refine ⟨verdict, inspected, fun ok => ?_⟩
  let first : FileTree.Stage Text :=
    { start := (routeOf target).start process.cwd, parts := (routeOf target).parts, known := [] }
  have sound : SafelyResolved process.files trusted
      (process.files.resolve systemLinks first.start first.parts) :=
    safelyResolved_of_followLinks start onlyRoot rfl straight run ok
  exact sound

/-! ## A name that is dropped -/

/-- Owned by the superuser and written by nobody else. -/
def sound : Stat where
  uid := 0
  mode := 0o755
  acl := .absent

/-- Owned by a user and written by everyone. -/
def exposed : Stat where
  uid := 1000
  mode := 0o777
  acl := .absent

/-- A program behind a link through a directory beside it, and one behind a link through
a link into a directory of a user. -/
def sampleFiles : FileTree Text Stat :=
  .ofList
    [([], .directory sound),
      (["t"], .directory sound),
      (["t", "x"], .file sound),
      (["t", "p"], .directory sound),
      (["t", "direct"], .link sound (routeOf "p/../x")),
      (["t", "run"], .link sound (routeOf "d/../x")),
      (["t", "d"], .link sound (routeOf "/o/s")),
      (["o"], .directory exposed),
      (["o", "s"], .directory exposed),
      (["o", "x"], .file exposed)]
    (by decide) (by decide)

def sampleProcess : Process where
  files := sampleFiles
  cwd := []
  cwd_directory := sampleFiles.root_directory

/-- The violations of a target of the sample. -/
def sampleViolations (target : Text) : Option (List Violation) :=
  match inspectResolvedPath sampleProcess {0} false target with
  | .ok verdict => some verdict.violations
  | .error _ => none

theorem sample_trusted {target : Text} (none : sampleViolations target = some []) :
    ∃ verdict, inspectResolvedPath sampleProcess {0} false target = .ok verdict ∧
      verdict.Trusted := by
  unfold sampleViolations at none
  split at none
  · exact ⟨_, ‹_›, Option.some.inj none⟩
  · cases none

/-- The program behind a link with a `..` that leaves a real directory is resolved
safely. -/
theorem trusted_resolution_direct :
    SafelyResolved sampleFiles {0} (systemResolve sampleProcess "/t/direct") := by
  have left : ∀ stage ∈ stagesOf sampleProcess "/t/direct", ∀ k < stage.parts.length,
      stage.parts[k]? = some .up → normalize stage.start (stage.parts.take k) = ["t", "p"] := by
    decide
  have plain : ∀ stage ∈ stagesOf sampleProcess "/t/direct",
      stage.parts.getLast? ≠ some .stay := by
    decide
  have straight : ∀ stage ∈ stagesOf sampleProcess "/t/direct",
      Straight sampleFiles {0} stage := by
    intro stage member
    refine ⟨fun before after split => ⟨sound, ?_, .inr ⟨by decide, fun _ => by decide⟩⟩,
      fun last => absurd last (plain stage member)⟩
    have directory := left stage member before.length (by simp [split]) (by simp [split])
    rw [split, List.take_left] at directory
    rw [directory]
    rfl
  obtain ⟨verdict, run, safe⟩ :=
    trusted_resolution sampleProcess (Finset.singleton_nonempty 0) "/t/direct" straight
  have none : sampleViolations "/t/direct" = some [] := by decide
  obtain ⟨verdict', run', trusted⟩ := sample_trusted none
  obtain rfl := Except.ok.inj (run.symm.trans run')
  exact safe trusted

/-- A trusted path that leads through a directory of a user: the link to it is dropped
before anything is looked at. -/
theorem not_trusted_resolution_dropped :
    (∃ verdict, inspectResolvedPath sampleProcess {0} false "/t/run" = .ok verdict ∧
      verdict.Trusted) ∧
    ¬ SafelyResolved sampleFiles {0} (systemResolve sampleProcess "/t/run") := by
  refine ⟨sample_trusted (by decide), ?_⟩
  rintro ⟨-, visits⟩
  obtain ⟨object, there, owner, -⟩ := visits ["o"] (by decide)
  have user : sampleFiles.object ["o"] = some (.directory exposed) := by rfl
  rw [user] at there
  obtain rfl := Option.some.inj there
  simp [Object.info, exposed] at owner

end Cathedral.PrivilegedPaths
