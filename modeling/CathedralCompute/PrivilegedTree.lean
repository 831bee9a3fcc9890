import CathedralCompute.PrivilegedPaths
import CathedralCompute.Semantics.Outline
import CathedralCompute.Semantics.Raises

/-!
# Trees a privileged process may trust

The inspection of a whole tree: its root as any path, and then every entry that the walk
over its directories yields, within limits on entries and depth. The walk reports a
root that it cannot open, and passes over every other directory that it cannot open
without a word. So the verdict speaks for what the walk has seen.

## Main definitions

* `inspectTree` — the inspection
* `Vouched` — what a trusted tree should be
* `Accepts` — what the walk looks at, without the walk

## Main results

* `inspectTree_trusted_iff` — the verdict is trusted exactly if what is seen is safe
* `vouched_of_trusted_iff` — when a trusted verdict vouches for the whole tree
-/

set_option autoImplicit false

namespace Cathedral.PrivilegedPaths

open Codec Semantics

/-! ## What stands in a tree -/

/-- How a directory answers to being opened and listed. -/
inductive Opening where
  | opens
  /-- it cannot be opened -/
  | closed
  /-- it opens, and listing it fails -/
  | breaks
  deriving DecidableEq

/-- What is no directory. -/
inductive Leaf where
  | file (info : Stat)
  /-- a device, a pipe or a socket -/
  | special (info : Stat)
  /-- a symbolic link, and whether it leads to a directory -/
  | link (info : Stat) (toDirectory : Bool)
  /-- a name at which `stat` fails, and whether it was listed as a directory -/
  | lost (errno : FileTree.Errno) (asDirectory : Bool)

structure Folder where
  info : Stat
  opening : Opening

/-- An entry of a directory. -/
abbrev Entry := Node Leaf Folder Text

/-- Whether the listing gives the entry among the directories; it follows links. -/
def Entry.listedAsDirectory : Entry → Bool
  | .branch _ _ => true
  | .leaf (.link _ toDirectory) => toDirectory
  | .leaf (.lost _ asDirectory) => asDirectory
  | .leaf _ => false

def Folder.isOpen (folder : Folder) : Bool := folder.opening = .opens

/-! ## Inspection -/

/-- A reason not to trust a tree. -/
inductive TreeViolation where
  | path (violation : Violation)
  /-- "exceeds the tree depth limit" -/
  | tooDeep (directory : AbsolutePath) (maxDepth : ℤ)
  /-- "exceeds the tree entry limit" -/
  | tooManyEntries (root : AbsolutePath) (maxEntries : ℤ)
  /-- "cannot be walked safely" -/
  | unwalkable (root : AbsolutePath)
  deriving DecidableEq

/-- The reasons not to trust a tree. -/
structure TreeVerdict where
  target : AbsolutePath
  violations : List TreeViolation

def TreeVerdict.Trusted (verdict : TreeVerdict) : Prop := verdict.violations = []

/-- The verdict with each reason once. -/
def treeVerdictOf (target : AbsolutePath) (violations : List TreeViolation) : TreeVerdict where
  target
  violations := violations.eraseDups

/-- What the loop over the walk knows: the root, the keywords and the limits. -/
structure TreeOptions where
  root : AbsolutePath
  trusted : Finset ℕ
  allowGroupWrite : Bool
  maxEntries : ℤ
  maxDepth : ℤ

/-- The entries counted, and the violations found. -/
structure Tally where
  entries : ℕ
  violations : List TreeViolation

/-- A name under a directory. -/
def AbsolutePath.child (directory : AbsolutePath) (name : Text) : AbsolutePath :=
  { directory with names := directory.names ++ [name] }

variable (options : TreeOptions)

/-- The keywords of the checks of mode and owner. -/
def TreeOptions.pathOptions : Options where
  trusted := options.trusted
  requireFile := false
  allowGroupWrite := options.allowGroupWrite

/-- What the inspection of one entry finds. -/
def inspectEntry (path : AbsolutePath) (expectedDirectory : Bool) : Entry → List Violation
  | .leaf (.lost errno _) => [.uninspected path errno]
  | .leaf (.link _ _) => [.symlink path]
  | .leaf (.file info) => modeViolations options.pathOptions path info true true ++
      if expectedDirectory then [.notDirectory path] else []
  | .leaf (.special info) => modeViolations options.pathOptions path info true true ++
      if expectedDirectory then [.notDirectory path] else [.notRegularFile path]
  | .branch folder _ => modeViolations options.pathOptions path folder.info true true ++
      if expectedDirectory then [] else [.notRegularFile path]

/-- One name of a directory: it is counted and inspected, and a directory with a violation
is not walked. An error ends the inspection. -/
def inspectName (directory : AbsolutePath) (state : Tally × List Text)
    (item : (Text × Entry) × Bool) : Except (List TreeViolation) (Tally × List Text) :=
  let ((name, entry), expectedDirectory) := item
  let (tally, dirnames) := state
  let entries := tally.entries + 1
  if options.maxEntries < entries then
    .error (tally.violations ++ [.tooManyEntries options.root options.maxEntries])
  else
    let found := inspectEntry options (directory.child name) expectedDirectory entry
    .ok (⟨entries, tally.violations ++ found.map .path⟩,
      if expectedDirectory ∧ found ≠ [] then dirnames.erase name else dirnames)

/-- The directories of a listing, then the others, each in the order of their names. -/
def sortedNames (listing : List (Text × Entry)) : List ((Text × Entry) × Bool) :=
  ((listing.filter fun item => item.2.listedAsDirectory).insertionSort
    fun a b => a.1 ≤ b.1).map (·, true) ++
  ((listing.filter fun item => !item.2.listedAsDirectory).insertionSort
    fun a b => a.1 ≤ b.1).map (·, false)

/-- The directories that the listing gives. -/
def dirnamesOf (listing : List (Text × Entry)) : List Text :=
  (listing.filter fun item => item.2.listedAsDirectory).map Prod.fst

mutual

/-- What the walk does at an entry at a depth that it goes into. A directory that cannot be
opened is passed over. -/
def walkEntry (path : AbsolutePath) (depth : ℕ) (tally : Tally) :
    Entry → Except (List TreeViolation) Tally
  | .leaf _ => .ok tally
  | .branch folder listing =>
    match folder.opening with
    | .closed => .ok tally
    | .breaks => .error (tally.violations ++ [.unwalkable options.root])
    | .opens =>
      if options.maxDepth < depth then
        .ok { tally with
          violations := tally.violations ++ [.tooDeep path options.maxDepth] }
      else do
        let (tally, dirnames) ←
          (sortedNames listing).foldlM (inspectName options path) (tally, dirnamesOf listing)
        walkListing path depth dirnames tally listing

/-- The directories of a listing that are still named, in the order of the listing. -/
def walkListing (path : AbsolutePath) (depth : ℕ) (dirnames : List Text) (tally : Tally) :
    List (Text × Entry) → Except (List TreeViolation) Tally
  | [] => .ok tally
  | (name, entry) :: listing =>
    (if name ∈ dirnames then walkEntry (path.child name) (depth + 1) tally entry
      else .ok tally) >>= fun tally => walkListing path depth dirnames tally listing

end

/-- What the inspection has found when the walk ends. -/
def violationsOf : Except (List TreeViolation) Tally → List TreeViolation
  | .ok tally => tally.violations
  | .error violations => violations

/-- The directories of the tree: how the root opens, and what is in it. -/
structure Contents where
  opening : Opening
  listing : List (Text × Entry)

/-- The walk over a tree; a root that cannot be opened is reported. -/
def walkTree (contents : Contents) : List TreeViolation :=
  match contents.opening with
  | .opens => violationsOf (walkEntry options options.root 0 ⟨0, []⟩
      (.branch ⟨⟨0, 0, .absent⟩, .opens⟩ contents.listing))
  | _ => [.unwalkable options.root]

/-- `inspect_tree`. -/
def inspectTree (files : FileTree Text Stat) (contents : Contents) :
    Except Failure TreeVerdict := do
  requireTrustedUids options.trusted
  require (1 ≤ options.maxEntries ∧ 0 ≤ options.maxDepth)
    (.valueError "tree limits must be positive")
  let rootVerdict ← inspectPath files options.pathOptions options.root
  return treeVerdictOf options.root
    (if rootVerdict.violations = [] then walkTree options contents
      else rootVerdict.violations.map .path)

/-! ## Entries that pass -/

/-- Owned by a trusted user, writable by nobody else, without an access-control list. -/
def Stat.Sound (trusted : Finset ℕ) (info : Stat) : Prop :=
  info.uid ∈ trusted ∧ info.mode &&& groupWrite = 0 ∧ info.mode &&& otherWrite = 0 ∧
    info.acl = .absent

/-- A regular file or a directory that is sound. -/
def Entry.Sound (trusted : Finset ℕ) : Entry → Prop
  | .leaf (.file info) => info.Sound trusted
  | .branch folder _ => folder.info.Sound trusted
  | .leaf _ => False

/-- The walk has nothing to say of the entry as a directory. -/
def Entry.Enterable (depth : ℕ) : Entry → Prop
  | .leaf _ => True
  | .branch folder _ =>
    folder.opening ≠ .breaks ∧ (folder.opening = .opens → (depth : ℤ) ≤ options.maxDepth)

variable {options}

theorem modeViolations_eq_nil {keywords : Options} (strict : keywords.allowGroupWrite = false)
    {component : AbsolutePath} {info : Stat} :
    modeViolations keywords component info true true = [] ↔ info.Sound keywords.trusted := by
  constructor
  · intro none
    have safe := @safe_of_modeViolations _ _ (.file info) strict none
    exact ⟨safe.1, safe.2 rfl⟩
  · rintro ⟨owner, group, other, acl⟩
    simp [modeViolations, aclViolations, strict, owner, group, other, acl, Nat.and_or_distrib_left]

theorem inspectEntry_eq_nil (strict : options.allowGroupWrite = false) {path : AbsolutePath}
    {entry : Entry} :
    inspectEntry options path entry.listedAsDirectory entry = [] ↔ entry.Sound options.trusted := by
  have passes {info : Stat} :
      modeViolations options.pathOptions path info true true = [] ↔ info.Sound options.trusted :=
    modeViolations_eq_nil strict
  cases entry with
  | leaf leaf => cases leaf <;> simp [inspectEntry, Entry.listedAsDirectory, Entry.Sound, passes]
  | branch folder listing =>
    simp [inspectEntry, Entry.listedAsDirectory, Entry.Sound, passes]

/-! ## The names of a directory -/

section Names

variable {directory : AbsolutePath} {items : List ((Text × Entry) × Bool)}

/-- What is found at a name. -/
def foundAt (options : TreeOptions) (directory : AbsolutePath) (item : (Text × Entry) × Bool) :
    List Violation :=
  inspectEntry options (directory.child item.1.1) item.2 item.1.2

/-- The directories that stay named. -/
def keptAfter (options : TreeOptions) (directory : AbsolutePath)
    (items : List ((Text × Entry) × Bool)) (dirnames : List Text) : List Text :=
  items.foldl (fun dirnames item => if item.2 ∧ foundAt options directory item ≠ [] then
    dirnames.erase item.1.1 else dirnames) dirnames

theorem keptAfter_of_clean (clean : ∀ item ∈ items, foundAt options directory item = [])
    (dirnames : List Text) : keptAfter options directory items dirnames = dirnames := by
  induction items with
  | nil => rfl
  | cons item items ih =>
    obtain ⟨first, rest⟩ := List.forall_mem_cons.mp clean
    rw [keptAfter, List.foldl_cons, if_neg (by simp [first])]
    exact ih rest

/-- The loop over the names counts them all, or ends the inspection at the limit. -/
theorem names_eq_ok {tally : Tally} {dirnames : List Text} {after : Tally × List Text}
    (within : (tally.entries : ℤ) ≤ options.maxEntries) :
    items.foldlM (inspectName options directory) (tally, dirnames) = .ok after ↔
      (tally.entries + items.length : ℤ) ≤ options.maxEntries ∧
      after = (⟨tally.entries + items.length,
        tally.violations ++ (items.flatMap (foundAt options directory)).map .path⟩,
        keptAfter options directory items dirnames) := by
  induction items generalizing tally dirnames with
  | nil =>
    have same : tally.violations ++ List.map TreeViolation.path [] = tally.violations :=
      List.append_nil _
    simp only [List.foldlM_nil, List.length_nil, List.flatMap_nil, keptAfter, List.foldl_nil, same]
    refine ⟨fun ended => ⟨by simpa using within, (Except.ok.inj ended).symm⟩, ?_⟩
    rintro ⟨-, rfl⟩
    rfl
  | cons item items ih =>
    rw [List.foldlM_cons, inspectName]
    simp only
    split
    · next beyond =>
      constructor
      · intro stopped
        cases stopped
      · rintro ⟨few, -⟩
        rw [List.length_cons] at few
        push_cast at few beyond
        omega
    · next inside =>
      push_cast at inside
      refine (ih (by push_cast; omega)).trans ?_
      simp only [List.length_cons, List.flatMap_cons, List.map_append, List.append_assoc]
      refine and_congr (by push_cast; omega) (Eq.congr_right ?_)
      rw [keptAfter, keptAfter, List.foldl_cons, Nat.add_assoc, Nat.add_comm 1]
      rfl

theorem length_sortedNames (listing : List (Text × Entry)) :
    (sortedNames listing).length = listing.length := by
  simp only [sortedNames, List.length_append, List.length_map, List.length_insertionSort]
  exact (List.length_eq_length_filter_add _).symm

theorem forall_mem_sortedNames {listing : List (Text × Entry)}
    {P : (Text × Entry) × Bool → Prop} : (∀ item ∈ sortedNames listing, P item) ↔
      ∀ item ∈ listing, P (item, item.2.listedAsDirectory) := by
  simp only [sortedNames, List.forall_mem_append, List.forall_mem_map, List.mem_insertionSort,
    List.mem_filter, Bool.not_eq_true']
  constructor
  · rintro ⟨directories, others⟩ item member
    cases kind : item.2.listedAsDirectory with
    | true => exact directories item ⟨member, kind⟩
    | false => exact others item ⟨member, kind⟩
  · intro each
    exact ⟨fun item ⟨member, kind⟩ => kind ▸ each item member,
      fun item ⟨member, kind⟩ => kind ▸ each item member⟩

end Names

/-! ## The walk -/

mutual

/-- **Step.** The walk keeps what it has found and stays within the limit. -/
theorem walkEntry_keeps : ∀ (entry : Entry) {path : AbsolutePath} {depth : ℕ}
    {tally after : Tally}, (tally.entries : ℤ) ≤ options.maxEntries →
    walkEntry options path depth tally entry = .ok after →
      tally.violations <+: after.violations ∧ (after.entries : ℤ) ≤ options.maxEntries
  | .leaf _, _, _, _, _, within, walked => by
    obtain rfl := Except.ok.inj walked
    exact ⟨List.prefix_rfl, within⟩
  | .branch folder listing, path, depth, tally, after, within, walked => by
    unfold walkEntry at walked
    split at walked
    · obtain rfl := Except.ok.inj walked
      exact ⟨List.prefix_rfl, within⟩
    · cases walked
    · split at walked
      · obtain rfl := Except.ok.inj walked
        exact ⟨List.prefix_append .., within⟩
      · obtain ⟨⟨middle, dirnames⟩, names, rest⟩ := bind_eq_ok.mp walked
        obtain ⟨few, same⟩ := (names_eq_ok within).mp names
        obtain ⟨rfl, rfl⟩ := Prod.mk.inj same
        rw [length_sortedNames] at few
        have onward := walkListing_keeps listing (by simpa [length_sortedNames] using few) rest
        exact ⟨(List.prefix_append ..).trans onward.1, onward.2⟩

theorem walkListing_keeps : ∀ (listing : List (Text × Entry)) {path : AbsolutePath} {depth : ℕ}
    {dirnames : List Text} {tally after : Tally}, (tally.entries : ℤ) ≤ options.maxEntries →
    walkListing options path depth dirnames tally listing = .ok after →
      tally.violations <+: after.violations ∧ (after.entries : ℤ) ≤ options.maxEntries
  | [], _, _, _, _, _, within, walked => by
    obtain rfl := Except.ok.inj walked
    exact ⟨List.prefix_rfl, within⟩
  | (name, entry) :: listing, path, depth, dirnames, tally, after, within, walked => by
    unfold walkListing at walked
    obtain ⟨middle, first, rest⟩ := bind_eq_ok.mp walked
    have start : tally.violations <+: middle.violations ∧
        (middle.entries : ℤ) ≤ options.maxEntries := by
      split at first
      · exact walkEntry_keeps entry within first
      · obtain rfl := Except.ok.inj first
        exact ⟨List.prefix_rfl, within⟩
    have onward := walkListing_keeps listing start.2 rest
    exact ⟨start.1.trans onward.1, onward.2⟩

end

theorem inspectName_raises {directory : AbsolutePath} (state : Tally × List Text)
    (item : (Text × Entry) × Bool) : Raises (· ≠ []) (inspectName options directory state item) := by
  intro violations failed
  unfold inspectName at failed
  simp only at failed
  split at failed
  · cases failed
    simp
  · cases failed

mutual

/-- The walk ends early with a violation. -/
theorem walkEntry_raises : ∀ (entry : Entry) {path : AbsolutePath} {depth : ℕ} {tally : Tally},
    Raises (· ≠ []) (walkEntry options path depth tally entry)
  | .leaf _, _, _, _ => raises_ok _
  | .branch folder listing, path, depth, tally => by
    unfold walkEntry
    split
    · exact raises_ok _
    · exact raises_error (by simp)
    · split
      · exact raises_ok _
      · exact raises_bind (raises_foldlM (fun state item _ => inspectName_raises state item) _)
          fun _ _ => walkListing_raises listing

theorem walkListing_raises : ∀ (listing : List (Text × Entry)) {path : AbsolutePath} {depth : ℕ}
    {dirnames : List Text} {tally : Tally},
    Raises (· ≠ []) (walkListing options path depth dirnames tally listing)
  | [], _, _, _, _ => raises_ok _
  | (name, entry) :: listing, path, depth, dirnames, tally => by
    unfold walkListing
    refine raises_bind ?_ fun _ _ => walkListing_raises listing
    split
    · exact walkEntry_raises entry
    · exact raises_ok _

end

theorem named_dirnamesOf (listing : List (Text × Entry)) :
    ∀ item ∈ listing, item.2.listedAsDirectory = true → item.1 ∈ dirnamesOf listing :=
  fun _ member kind => List.mem_map_of_mem (List.mem_filter.mpr ⟨member, kind⟩)

/-- What the walk needs of a node it comes to. -/
def Passes (options : TreeOptions) (x : ℕ × Entry) : Prop :=
  x.2.Sound options.trusted ∧ x.2.Enterable options x.1

/-- What is reached below the entries of a listing. -/
def reachedBelow (depth : ℕ) (listing : List (Text × Entry)) : ℕ :=
  (listing.map fun item => (Node.reached Folder.isOpen depth item.2).length).sum

mutual

/-- **Walk.** The walk goes through an entry without a violation exactly if all that it
reaches passes and fits within the limit. -/
theorem walkEntry_clean (strict : options.allowGroupWrite = false) : ∀ (entry : Entry)
    {path : AbsolutePath} {depth n n' : ℕ} {violations : List TreeViolation},
    (n : ℤ) ≤ options.maxEntries →
    (walkEntry options path depth ⟨n, violations⟩ entry = .ok ⟨n', []⟩ ↔
      violations = [] ∧ entry.Enterable options depth ∧
        (∀ x ∈ Node.reached Folder.isOpen depth entry, Passes options x) ∧
        (n + (Node.reached Folder.isOpen depth entry).length : ℤ) ≤ options.maxEntries ∧
        n' = n + (Node.reached Folder.isOpen depth entry).length)
  | .leaf _, _, _, _, _, _, within => by
    simp [walkEntry, Node.reached, Entry.Enterable, within, and_comm, eq_comm]
  | .branch ⟨info, opening⟩ listing, path, depth, n, n', violations, within => by
    cases opening with
    | closed => simp [walkEntry, Node.reached, Entry.Enterable, Folder.isOpen, within, eq_comm,
        and_comm]
    | breaks => simp [walkEntry, Entry.Enterable]
    | opens =>
      -- an opened directory reaches what is below it
      have below : Node.reached Folder.isOpen depth (.branch ⟨info, .opens⟩ listing) =
          Node.reachedAll Folder.isOpen (depth + 1) listing := by
        rw [Node.reached, if_pos (by simp [Folder.isOpen])]
      have enterable : Entry.Enterable options depth (.branch ⟨info, .opens⟩ listing) ↔
          (depth : ℤ) ≤ options.maxDepth := by simp [Entry.Enterable]
      have length : (Node.reachedAll Folder.isOpen (depth + 1) listing).length =
          listing.length + reachedBelow (depth + 1) listing :=
        Node.length_reachedAll Folder.isOpen (depth + 1) listing
      rw [below, enterable, length]
      unfold walkEntry
      simp only
      split
      · next deep =>
        refine ⟨fun walked => ?_, fun ⟨_, shallow, _⟩ => absurd shallow (not_le.mpr deep)⟩
        have ended := congrArg Tally.violations (Except.ok.inj walked)
        simp at ended
      · next shallow =>
        rw [bind_eq_ok, Node.forall_mem_reachedAll]
        have kept (clean : ∀ item ∈ sortedNames listing, foundAt options path item = []) :=
          keptAfter_of_clean clean (dirnamesOf listing)
        constructor
        · -- no violation so far means that no name of the listing has one
          rintro ⟨⟨middle, dirnames⟩, names, rest⟩
          obtain ⟨few, same⟩ := (names_eq_ok within).mp names
          obtain ⟨rfl, rfl⟩ := Prod.mk.inj same
          rw [length_sortedNames] at few
          have counted : ((n + (sortedNames listing).length : ℕ) : ℤ) ≤ options.maxEntries := by
            rw [length_sortedNames]
            exact_mod_cast few
          have ended := List.prefix_nil.mp (walkListing_keeps listing counted rest).1
          obtain ⟨rfl, found⟩ := List.append_eq_nil_iff.mp ended
          have clean := List.flatMap_eq_nil_iff.mp (List.map_eq_nil_iff.mp found)
          rw [kept clean] at rest
          obtain ⟨-, enterable, passes, fits, rfl⟩ :=
            (walkListing_clean strict listing counted (named_dirnamesOf listing)).mp rest
          rw [length_sortedNames] at fits ⊢
          refine ⟨rfl, not_lt.mp shallow, ⟨fun item member => ⟨?_, enterable item member⟩, passes⟩,
            by push_cast at fits ⊢; omega, by omega⟩
          exact (inspectEntry_eq_nil strict).mp (forall_mem_sortedNames.mp clean item member)
        · -- names that pass are counted, and the walk goes on below
          rintro ⟨rfl, -, ⟨each, passes⟩, few, rfl⟩
          push_cast at few
          have clean : ∀ item ∈ sortedNames listing, foundAt options path item = [] :=
            forall_mem_sortedNames.mpr fun item member =>
              (inspectEntry_eq_nil strict).mpr (each item member).1
          have found : (sortedNames listing).flatMap (foundAt options path) = [] :=
            List.flatMap_eq_nil_iff.mpr clean
          refine ⟨_, (names_eq_ok within).mpr ⟨?_, rfl⟩, ?_⟩
          · rw [length_sortedNames]
            exact le_trans (by dsimp only; omega) few
          · rw [kept clean, found, length_sortedNames]
            have counted : ((n + listing.length : ℕ) : ℤ) ≤ options.maxEntries := by
              push_cast
              omega
            exact (walkListing_clean strict listing counted (named_dirnamesOf listing)).mpr
              ⟨rfl, fun item member => (each item member).2, passes, by push_cast; omega, by omega⟩

theorem walkListing_clean (strict : options.allowGroupWrite = false) :
    ∀ (listing : List (Text × Entry)) {path : AbsolutePath} {depth n n' : ℕ}
    {dirnames : List Text} {violations : List TreeViolation},
    (n : ℤ) ≤ options.maxEntries →
    (∀ item ∈ listing, item.2.listedAsDirectory = true → item.1 ∈ dirnames) →
    (walkListing options path depth dirnames ⟨n, violations⟩ listing = .ok ⟨n', []⟩ ↔
      violations = [] ∧ (∀ item ∈ listing, item.2.Enterable options (depth + 1)) ∧
        (∀ item ∈ listing, ∀ x ∈ Node.reached Folder.isOpen (depth + 1) item.2,
          Passes options x) ∧
        (n + reachedBelow (depth + 1) listing : ℤ) ≤ options.maxEntries ∧
        n' = n + reachedBelow (depth + 1) listing)
  | [], _, _, _, _, _, _, within, _ => by
    simp [walkListing, reachedBelow, within, and_comm, eq_comm]
  | (name, entry) :: listing, path, depth, n, n', dirnames, violations, within, named => by
    obtain ⟨here, others⟩ := List.forall_mem_cons.mp named
    -- a leaf is passed over whether it is named or not
    have first (tally : Tally) : (if name ∈ dirnames then
        walkEntry options (path.child name) (depth + 1) tally entry else .ok tally) =
        walkEntry options (path.child name) (depth + 1) tally entry := by
      cases entry with
      | leaf leaf => rw [walkEntry, ite_self]
      | branch folder listing => rw [if_pos (here rfl)]
    have sum : reachedBelow (depth + 1) ((name, entry) :: listing) =
        (Node.reached Folder.isOpen (depth + 1) entry).length + reachedBelow (depth + 1) listing :=
      rfl
    unfold walkListing
    rw [first, bind_eq_ok, sum]
    simp only [List.forall_mem_cons]
    constructor
    · rintro ⟨⟨m, middle⟩, walked, rest⟩
      have counted : (m : ℤ) ≤ options.maxEntries := (walkEntry_keeps entry within walked).2
      obtain ⟨rfl, enterable, passes, few, rfl⟩ :=
        (walkListing_clean strict listing counted others).mp rest
      obtain ⟨rfl, enters, reached, fits, rfl⟩ :=
        (walkEntry_clean strict entry within).mp walked
      exact ⟨rfl, ⟨enters, enterable⟩, ⟨reached, passes⟩, by push_cast at few ⊢; omega, by omega⟩
    · rintro ⟨rfl, ⟨enters, enterable⟩, ⟨reached, passes⟩, few, rfl⟩
      push_cast at few
      have fits : (n + (Node.reached Folder.isOpen (depth + 1) entry).length : ℤ) ≤
          options.maxEntries := by omega
      have counted : ((n + (Node.reached Folder.isOpen (depth + 1) entry).length : ℕ) : ℤ) ≤
          options.maxEntries := by exact_mod_cast fits
      refine ⟨⟨n + (Node.reached Folder.isOpen (depth + 1) entry).length, []⟩,
        (walkEntry_clean strict entry within).mpr ⟨rfl, enters, reached, fits, rfl⟩, ?_⟩
      exact (walkListing_clean strict listing counted others).mpr
        ⟨rfl, enterable, passes, by push_cast; omega, by omega⟩

end

/-! ## Verdicts -/

/-- What a trusted tree should be: all that lies below the root is a regular file or a
directory that is sound, within the limits. -/
structure Vouched (options : TreeOptions) (contents : Contents) : Prop where
  sound : ∀ x ∈ Node.reachedAll Node.everything 1 contents.listing,
    Entry.Sound options.trusted x.2
  few : ((Node.reachedAll Node.everything 1 contents.listing).length : ℤ) ≤ options.maxEntries
  shallow : ∀ x ∈ Node.reachedAll Node.everything 1 contents.listing,
    ∀ folder listing, x.2 = .branch folder listing → (x.1 : ℤ) ≤ options.maxDepth

/-- The call is proper, the root is trusted as a directory and opens, and what is reached
through directories that open is sound and within the limits. -/
structure Accepts (options : TreeOptions) (files : FileTree Text Stat) (contents : Contents) :
    Prop where
  nonempty : options.trusted.Nonempty
  limits : 1 ≤ options.maxEntries ∧ 0 ≤ options.maxDepth
  root : componentViolations files options.pathOptions true options.root = [] ∧
    ∀ parent ∈ parents options.root, componentViolations files options.pathOptions false parent = []
  opens : contents.opening = .opens
  passes : ∀ x ∈ Node.reachedAll Folder.isOpen 1 contents.listing, Passes options x
  few : ((Node.reachedAll Folder.isOpen 1 contents.listing).length : ℤ) ≤ options.maxEntries

/-- Nothing that the walk passes over makes a difference: the directories that do not open
lie within the depth limit, and what is in them is sound and within the limits. -/
structure Harmless (options : TreeOptions) (contents : Contents) : Prop where
  sound : ∀ x ∈ Node.hiddenAll Folder.isOpen 1 contents.listing,
    Entry.Sound options.trusted x.2
  few : ((Node.reachedAll Folder.isOpen 1 contents.listing).length +
    (Node.hiddenAll Folder.isOpen 1 contents.listing).length : ℤ) ≤ options.maxEntries
  closed : ∀ x ∈ Node.reachedAll Folder.isOpen 1 contents.listing, ∀ folder listing,
    x.2 = .branch folder listing → folder.opening = .closed → (x.1 : ℤ) ≤ options.maxDepth
  shallow : ∀ x ∈ Node.hiddenAll Folder.isOpen 1 contents.listing, ∀ folder listing,
    x.2 = .branch folder listing → (x.1 : ℤ) ≤ options.maxDepth

section Verdicts

variable {files : FileTree Text Stat} {contents : Contents}

theorem trusted_treeVerdictOf {target : AbsolutePath} {violations : List TreeViolation} :
    (treeVerdictOf target violations).Trusted ↔ violations = [] := by
  cases violations with
  | nil => simp [TreeVerdict.Trusted, treeVerdictOf]
  | cons violation violations =>
    simp [TreeVerdict.Trusted, treeVerdictOf, List.eraseDups_cons]

/-- The walk over the tree finds nothing exactly if what it reaches passes. -/
theorem walkTree_eq_nil (strict : options.allowGroupWrite = false)
    (limits : 1 ≤ options.maxEntries ∧ 0 ≤ options.maxDepth) :
    walkTree options contents = [] ↔ contents.opening = .opens ∧
      (∀ x ∈ Node.reachedAll Folder.isOpen 1 contents.listing, Passes options x) ∧
      ((Node.reachedAll Folder.isOpen 1 contents.listing).length : ℤ) ≤ options.maxEntries := by
  obtain ⟨opening, listing⟩ := contents
  cases opening with
  | closed => simp [walkTree]
  | breaks => simp [walkTree]
  | opens =>
    have start : ((0 : ℕ) : ℤ) ≤ options.maxEntries := by
      push_cast
      omega
    have clean {n' : ℕ} := @walkEntry_clean options strict
      (.branch ⟨⟨0, 0, .absent⟩, .opens⟩ listing) options.root 0 0 n' [] start
    have below : Node.reached Folder.isOpen 0 (.branch ⟨⟨0, 0, .absent⟩, .opens⟩ listing) =
        Node.reachedAll Folder.isOpen 1 listing := by
      rw [Node.reached, if_pos (by simp [Folder.isOpen])]
    have enterable : Entry.Enterable options 0 (.branch ⟨⟨0, 0, .absent⟩, .opens⟩ listing) := by
      simpa [Entry.Enterable] using limits.2
    simp only [below, enterable, true_and, Nat.cast_zero, zero_add] at clean
    simp only [walkTree, true_and]
    constructor
    · intro none
      cases walked : walkEntry options options.root 0 ⟨0, []⟩
          (.branch ⟨⟨0, 0, .absent⟩, .opens⟩ listing) with
      | error violations =>
        rw [walked] at none
        exact absurd none (walkEntry_raises _ _ walked)
      | ok tally =>
        obtain ⟨n', violations⟩ := tally
        rw [walked] at none
        obtain rfl : violations = [] := none
        obtain ⟨passes, few, -⟩ := clean.mp walked
        exact ⟨passes, few⟩
    · rintro ⟨passes, few⟩
      rw [clean.mpr ⟨passes, few, rfl⟩]
      rfl

/-- **Verdict.** The verdict is trusted exactly if the call is proper and what the walk
reaches is sound and within the limits. -/
theorem inspectTree_trusted_iff (strict : options.allowGroupWrite = false) :
    (∃ verdict, inspectTree options files contents = .ok verdict ∧ verdict.Trusted) ↔
      Accepts options files contents := by
  constructor
  · rintro ⟨verdict, inspected, trusted⟩
    obtain ⟨_, nonempty, inspected⟩ := bind_eq_ok.mp inspected
    obtain ⟨_, limits, inspected⟩ := bind_eq_ok.mp inspected
    obtain ⟨rootVerdict, root, inspected⟩ := bind_eq_ok.mp inspected
    obtain rfl := Except.ok.inj inspected
    have limits := require_eq_ok.mp limits
    rw [trusted_treeVerdictOf] at trusted
    split at trusted
    · next clean =>
      obtain ⟨opens, passes, few⟩ := (walkTree_eq_nil strict limits).mp trusted
      exact ⟨require_eq_ok.mp nonempty, limits, violations_of_inspectPath root clean, opens, passes,
        few⟩
    · next dirty => exact absurd (List.map_eq_nil_iff.mp trusted) dirty
  · intro accepts
    obtain ⟨verdict, inspected, clean⟩ : ∃ verdict, inspectPath files options.pathOptions
        options.root = .ok verdict ∧ verdict.violations = [] := by
      refine ⟨_, bind_eq_ok.mpr ⟨(), require_eq_ok.mpr accepts.nonempty, rfl⟩, ?_⟩
      exact List.append_eq_nil_iff.mpr ⟨accepts.root.1,
        List.flatMap_eq_nil_iff.mpr accepts.root.2⟩
    refine ⟨_, bind_eq_ok.mpr ⟨(), require_eq_ok.mpr accepts.nonempty, bind_eq_ok.mpr
      ⟨(), require_eq_ok.mpr accepts.limits, bind_eq_ok.mpr ⟨verdict, inspected, rfl⟩⟩⟩, ?_⟩
    rw [trusted_treeVerdictOf, if_pos clean]
    exact (walkTree_eq_nil strict accepts.limits).mpr ⟨accepts.opens, accepts.passes, accepts.few⟩

/-- An accepted tree is as it should be exactly if what the walk passes over is harmless. -/
theorem vouched_iff_harmless (accepts : Accepts options files contents) :
    Vouched options contents ↔ Harmless options contents := by
  have perm := Node.reachedAll_perm Folder.isOpen 1 contents.listing
  have mem (x : ℕ × Entry) : x ∈ Node.reachedAll Node.everything 1 contents.listing ↔
      x ∈ Node.reachedAll Folder.isOpen 1 contents.listing ∨
        x ∈ Node.hiddenAll Folder.isOpen 1 contents.listing :=
    perm.mem_iff.trans List.mem_append
  have length := perm.length_eq
  rw [List.length_append] at length
  constructor
  · intro vouched
    refine ⟨fun x hidden => vouched.sound x ((mem x).mpr (.inr hidden)), ?_,
      fun x reached folder listing branch _ =>
        vouched.shallow x ((mem x).mpr (.inl reached)) folder listing branch,
      fun x hidden => vouched.shallow x ((mem x).mpr (.inr hidden))⟩
    have few := vouched.few
    rw [length] at few
    exact_mod_cast few
  · intro harmless
    refine ⟨fun x below => ?_, ?_, fun x below folder listing branch => ?_⟩
    · rcases (mem x).mp below with reached | hidden
      · exact (accepts.passes x reached).1
      · exact harmless.sound x hidden
    · rw [length]
      exact_mod_cast harmless.few
    · rcases (mem x).mp below with reached | hidden
      · have enterable := (accepts.passes x reached).2
        rw [branch, Entry.Enterable] at enterable
        cases opening : folder.opening with
        | opens => exact enterable.2 opening
        | closed => exact harmless.closed x reached folder listing branch opening
        | breaks => exact absurd opening enterable.1
      · exact harmless.shallow x hidden folder listing branch

end Verdicts

/-- The keywords of an inspection that does not allow group writes. -/
def strictOptions (root : AbsolutePath) (trusted : Finset ℕ) (maxEntries maxDepth : ℤ) :
    TreeOptions where
  root
  trusted
  allowGroupWrite := false
  maxEntries
  maxDepth

/-- **Trees.** A trusted verdict vouches for the whole tree exactly if the walk has something
to refuse, or what it passes over is harmless; and it does so wherever every directory that
it comes to can be opened. -/
theorem vouched_of_trusted_iff (root : AbsolutePath) (trusted : Finset ℕ) (maxEntries maxDepth : ℤ)
    (files : FileTree Text Stat) (contents : Contents) :
    ((∀ verdict,
        inspectTree (strictOptions root trusted maxEntries maxDepth) files contents = .ok verdict →
        verdict.Trusted → Vouched (strictOptions root trusted maxEntries maxDepth) contents) ↔
      ¬ Accepts (strictOptions root trusted maxEntries maxDepth) files contents ∨
        Harmless (strictOptions root trusted maxEntries maxDepth) contents) ∧
    ((∀ x ∈ Node.reachedAll Folder.isOpen 1 contents.listing, ∀ folder listing,
        x.2 = .branch folder listing → folder.opening ≠ .closed) →
      ¬ Accepts (strictOptions root trusted maxEntries maxDepth) files contents ∨
        Harmless (strictOptions root trusted maxEntries maxDepth) contents) := by
  have accepted := @inspectTree_trusted_iff (strictOptions root trusted maxEntries maxDepth) files
    contents rfl
  constructor
  · constructor
    · intro vouches
      by_cases accepts : Accepts (strictOptions root trusted maxEntries maxDepth) files contents
      · obtain ⟨verdict, inspected, ok⟩ := accepted.mpr accepts
        exact .inr ((vouched_iff_harmless accepts).mp (vouches verdict inspected ok))
      · exact .inl accepts
    · rintro (refused | harmless) verdict inspected ok
      · exact absurd (accepted.mp ⟨verdict, inspected, ok⟩) refused
      · exact (vouched_iff_harmless (accepted.mp ⟨verdict, inspected, ok⟩)).mpr harmless
  · intro opened
    refine or_iff_not_imp_left.mpr fun accepts => ?_
    have accepts := not_not.mp accepts
    have nothing : Node.hiddenAll Folder.isOpen 1 contents.listing = [] := by
      refine Node.hiddenAll_eq_nil fun x reached folder listing branch => ?_
      have enterable := (accepts.passes x reached).2
      rw [branch, Entry.Enterable] at enterable
      cases opening : folder.opening with
      | opens => simp [Folder.isOpen, opening]
      | closed => exact absurd opening (opened x reached folder listing branch)
      | breaks => exact absurd opening enterable.1
    refine ⟨by simp [nothing], ?_, fun x reached folder listing branch closed =>
      absurd closed (opened x reached folder listing branch), by simp [nothing]⟩
    rw [nothing, List.length_nil, Nat.cast_zero, add_zero]
    exact accepts.few

/-- A tree whose only directory cannot be opened, over a file that everyone may write. -/
def closedContents : Contents where
  opening := .opens
  listing := [("d", .branch ⟨sound, .closed⟩ [("x", .leaf (.file exposed))])]

/-- The verdict on it is trusted. -/
theorem not_vouched_closedContents :
    (∃ verdict, inspectTree (strictOptions ⟨false, ["t"]⟩ {0} 100000 64) sampleFiles
        closedContents = .ok verdict ∧ verdict.Trusted) ∧
      ¬ Vouched (strictOptions ⟨false, ["t"]⟩ {0} 100000 64) closedContents := by
  constructor
  · refine (inspectTree_trusted_iff rfl).mpr ⟨⟨0, by decide⟩, by decide, by decide, rfl, ?_, by decide⟩
    intro x reached
    obtain rfl := List.mem_singleton.mp reached
    have safe : Stat.Sound {0} sound := ⟨by decide, by decide, by decide, rfl⟩
    exact ⟨safe, by simp [Entry.Enterable]⟩
  · intro vouched
    have below : (2, .leaf (.file exposed)) ∈ Node.reachedAll Node.everything 1
        closedContents.listing := by
      simp [closedContents, Node.reachedAll, Node.reached, Node.everything]
    have owner : exposed.uid ∈ ({0} : Finset ℕ) := (vouched.sound _ below).1
    exact absurd owner (by decide)

end Cathedral.PrivilegedPaths
