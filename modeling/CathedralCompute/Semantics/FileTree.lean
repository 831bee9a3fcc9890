import Mathlib.Data.List.Basic
import Mathlib.Data.List.Induction

/-!
# File trees and path resolution

A tree of directories, regular files and symbolic links, each known by its real path:
the names that lead to it from the root, every one but the last a directory.

A path text is a number of leading slashes and the parts between the slashes. The system
resolves it part by part, goes on with the text of each link it meets, and gives up after
a number of links. Lexical normalization instead cancels each `..` against the part
before it and looks at no object. The two agree as long as every directory that a `..`
leaves is a real one.

## Main definitions

* `FileTree.resolve` — the resolution, with the objects it visits
* `FileTree.stages` — the texts it resolves on the way
* `normalize` — lexical normalization

## Main results

* `FileTree.lstat_eq` — the object at a path whose ancestors are directories
* `FileTree.scan_final` — a stretch that ends where normalization says
* `FileTree.scan_link` — a stretch that stops at a link
-/

set_option autoImplicit false

namespace Semantics

variable {ν ι : Type}

/-! ## Path texts -/

/-- What stands between two slashes: nothing or `.`, `..`, or a name. -/
inductive Part (ν : Type) where
  | stay
  | up
  | name (name : ν)
  deriving DecidableEq

/-- A path text. -/
structure Route (ν : Type) where
  /-- How many slashes it starts with. -/
  slashes : ℕ
  parts : List (Part ν)
  deriving DecidableEq

/-- Whether the text starts at the root. -/
def Route.absolute (route : Route ν) : Bool := 0 < route.slashes

/-- The directory the text starts from. -/
def Route.start (route : Route ν) (here : List ν) : List ν :=
  if route.absolute then [] else here

/-- The lexical effect of a part. -/
def Part.follow (path : List ν) : Part ν → List ν
  | .stay => path
  | .up => path.dropLast
  | .name n => path ++ [n]

/-- Lexical normalization of parts after a path. -/
def normalize (path : List ν) (parts : List (Part ν)) : List ν := parts.foldl Part.follow path

@[simp] theorem normalize_nil (path : List ν) : normalize path [] = path := rfl

@[simp] theorem normalize_cons (path : List ν) (part : Part ν) (rest : List (Part ν)) :
    normalize path (part :: rest) = normalize (part.follow path) rest := rfl

@[simp] theorem normalize_append (path : List ν) (parts rest : List (Part ν)) :
    normalize path (parts ++ rest) = normalize (normalize path parts) rest := List.foldl_append

@[simp] theorem normalize_names (path names : List ν) :
    normalize path (names.map .name) = path ++ names := by
  induction names generalizing path with
  | nil => simp
  | cons name names ih => simp [ih, Part.follow]

theorem normalize_concat (path : List ν) (parts : List (Part ν)) (name : ν) :
    normalize path (parts ++ [.name name]) = normalize path parts ++ [name] := by
  rw [normalize_append]
  rfl

/-- The names among the parts. -/
def namesOf (parts : List (Part ν)) : List ν :=
  parts.filterMap fun
    | .name name => some name
    | _ => none

/-- Without `..` the names are appended. -/
theorem normalize_of_no_up {parts : List (Part ν)} (plain : .up ∉ parts) (path : List ν) :
    normalize path parts = path ++ namesOf parts := by
  induction parts generalizing path with
  | nil => simp [namesOf]
  | cons part rest ih =>
    have later := ih (fun member => plain (List.mem_cons_of_mem _ member))
    cases part with
    | stay => simpa [Part.follow, namesOf] using later path
    | up => simp at plain
    | name name => simpa [Part.follow, namesOf] using later (path ++ [name])

/-- Without `..` and names there are only empty parts and dots. -/
theorem eq_stay_of_nameless {parts : List (Part ν)} (plain : .up ∉ parts)
    (nameless : namesOf parts = []) {part : Part ν} (member : part ∈ parts) : part = .stay := by
  cases part with
  | stay => rfl
  | up => exact absurd member plain
  | name name =>
    have listed : name ∈ namesOf parts := List.mem_filterMap.mpr ⟨_, member, rfl⟩
    rw [nameless] at listed
    cases listed

/-! ## Trees -/

/-- What stands at a path. -/
inductive Object (ν ι : Type) where
  | directory (info : ι)
  | file (info : ι)
  | link (info : ι) (text : Route ν)

namespace Object

/-- What is recorded of the object. -/
def info : Object ν ι → ι
  | .directory info | .file info | .link info _ => info

def isDirectory : Object ν ι → Bool
  | .directory _ => true
  | _ => false

def isFile : Object ν ι → Bool
  | .file _ => true
  | _ => false

def isLink : Object ν ι → Bool
  | .link _ _ => true
  | _ => false

theorem eq_directory {object : Object ν ι} (is : object.isDirectory = true) :
    object = .directory object.info := by
  cases object with
  | directory info => rfl
  | _ => simp [isDirectory] at is

end Object

/-- Directories, files and links by their real paths. -/
structure FileTree (ν ι : Type) where
  object : List ν → Option (Object ν ι)
  root_directory : ∃ info, object [] = some (.directory info)
  parent_directory : ∀ path name, (object (path ++ [name])).isSome →
    ∃ info, object path = some (.directory info)

namespace FileTree

variable (tree : FileTree ν ι)

/-- A directory stands at the path. -/
def IsDirectory (path : List ν) : Prop := ∃ info, tree.object path = some (.directory info)

variable {tree}

/-- What stands beyond a path stands in a directory. -/
theorem isDirectory_of_beyond {path names : List ν} (beyond : names ≠ [])
    (there : (tree.object (path ++ names)).isSome) : tree.IsDirectory path := by
  induction names using List.reverseRecOn with
  | nil => exact absurd rfl beyond
  | append_singleton names name ih =>
    rw [← List.append_assoc] at there
    obtain ⟨info, directory⟩ := tree.parent_directory _ _ there
    cases names with
    | nil => exact ⟨info, by simpa using directory⟩
    | cons first names => exact ih (List.cons_ne_nil _ _) (by simp [directory])

/-- What leads to a directory is a directory. -/
theorem IsDirectory.of_append {path names : List ν} (directory : tree.IsDirectory (path ++ names)) :
    tree.IsDirectory path := by
  cases names with
  | nil => simpa using directory
  | cons name names =>
    obtain ⟨info, there⟩ := directory
    exact isDirectory_of_beyond (List.cons_ne_nil name names) (by rw [there]; rfl)

/-- Whatever stands in the tree stands in a directory. -/
theorem isDirectory_dropLast {path : List ν} (there : (tree.object path).isSome) :
    tree.IsDirectory path.dropLast := by
  cases path using List.reverseRecOn with
  | nil => exact tree.root_directory
  | append_singleton path name =>
    rw [List.dropLast_concat]
    exact tree.parent_directory path name there

/-- The tree with the listed objects. -/
def ofList [DecidableEq ν] (objects : List (List ν × Object ν ι))
    (root : ((objects.lookup []).any Object.isDirectory) = true)
    (parents : ∀ entry ∈ objects, entry.1 ≠ [] →
      ((objects.lookup entry.1.dropLast).any Object.isDirectory) = true) : FileTree ν ι where
  object path := objects.lookup path
  root_directory := by
    obtain ⟨object, there, directory⟩ := (Option.any_eq_true ..).mp root
    exact ⟨object.info, object.eq_directory directory ▸ there⟩
  parent_directory path name there := by
    obtain ⟨object, there⟩ := Option.isSome_iff_exists.mp there
    have listed : (path ++ [name], object) ∈ objects := by
      obtain ⟨before, after, split, -⟩ := List.lookup_eq_some_iff.mp there
      simp [split]
    obtain ⟨parent, above, directory⟩ := (Option.any_eq_true ..).mp (parents _ listed (by simp))
    rw [List.dropLast_concat] at above
    exact ⟨parent.info, parent.eq_directory directory ▸ above⟩

variable (tree)

/-! ## Resolution -/

/-- Why resolution fails. -/
inductive Errno where
  | missing
  | notDirectory
  | tooManyLinks
  deriving DecidableEq

/-- Where one stretch of resolution stops. -/
inductive Stop (ν : Type) where
  | arrived (path : List ν)
  | link (path : List ν) (text : Route ν) (rest : List (Part ν))
  | failed (errno : Errno)

/-- Follow parts from a path up to the first link, and what is visited on the way. -/
def scan : List ν → List (Part ν) → List (List ν) × Stop ν
  | here, [] => ([here], .arrived here)
  | here, part :: rest =>
    match tree.object here with
    | some (.directory _) =>
      match part with
      | .stay => scan here rest
      | .up => (scan here.dropLast rest).map (here :: ·) id
      | .name name =>
        match tree.object (here ++ [name]) with
        | none => ([here], .failed .missing)
        | some (.link _ text) => ([here, here ++ [name]], .link (here ++ [name]) text rest)
        | some _ => (scan (here ++ [name]) rest).map (here :: ·) id
    | _ => ([here], .failed .notDirectory)

/-- Resolve parts from a directory, following at most `links` links. -/
def resolve : ℕ → List ν → List (Part ν) → List (List ν) × Except Errno (List ν)
  | links, here, parts =>
    match tree.scan here parts, links with
    | (visited, .arrived path), _ => (visited, .ok path)
    | (visited, .failed errno), _ => (visited, .error errno)
    | (visited, .link _ _ _), 0 => (visited, .error .tooManyLinks)
    | (visited, .link path text rest), links + 1 =>
      (resolve links (text.start path.dropLast) (text.parts ++ rest)).map (visited ++ ·) id

/-- A text to be resolved, and a directory known with its ancestors. -/
structure Stage (ν : Type) where
  start : List ν
  parts : List (Part ν)
  known : List ν

/-- The text of a link with what is left of the text that led to it. -/
def Stage.ofLink (path : List ν) (text : Route ν) (rest : List (Part ν)) : Stage ν where
  start := text.start path.dropLast
  parts := text.parts ++ rest
  known := path.dropLast

/-- The texts that resolution goes through. -/
def stages : ℕ → Stage ν → List (Stage ν)
  | links, stage =>
    stage :: match (tree.scan stage.start stage.parts).2, links with
      | .link path text rest, links + 1 => stages links (.ofLink path text rest)
      | _, _ => []

/-- The object a path leads to, the last name not followed. -/
def lstat (links : ℕ) (path : List ν) : Except Errno (Object ν ι) :=
  match path.getLast? with
  | none =>
    match tree.object [] with
    | some object => .ok object
    | none => .error .missing
  | some name =>
    match (tree.resolve links [] (path.dropLast.map .name)).2 with
    | .error errno => .error errno
    | .ok parent =>
      match tree.object parent, tree.object (parent ++ [name]) with
      | some (.directory _), some object => .ok object
      | some (.directory _), none => .error .missing
      | _, _ => .error .notDirectory

/-! ## What a stretch does -/

/-- What a stretch from a directory can come to. -/
inductive Scanned (here : List ν) (parts : List (Part ν)) : Stop ν → Prop
  | arrived (object : Object ν ι) (there : tree.object (normalize here parts) = some object)
      (plain : object.isLink = false) : Scanned here parts (.arrived (normalize here parts))
  | link (before rest : List (Part ν)) (name : ν) (info : ι) (text : Route ν)
      (split : parts = before ++ .name name :: rest)
      (there : tree.object (normalize here before ++ [name]) = some (.link info text)) :
      Scanned here parts (.link (normalize here before ++ [name]) text rest)
  | notDirectory (before rest : List (Part ν)) (part : Part ν) (info : ι)
      (split : parts = before ++ part :: rest)
      (there : tree.object (normalize here before) = some (.file info)) :
      Scanned here parts (.failed .notDirectory)
  | missing (before rest : List (Part ν)) (name : ν) (split : parts = before ++ .name name :: rest)
      (there : tree.IsDirectory (normalize here before))
      (absent : tree.object (normalize here before ++ [name]) = none) :
      Scanned here parts (.failed .missing)

variable {tree} {here : List ν} {parts : List (Part ν)}

theorem Scanned.cons {part : Part ν} {rest : List (Part ν)} {stop : Stop ν}
    (scanned : tree.Scanned (part.follow here) rest stop) :
    tree.Scanned here (part :: rest) stop := by
  cases scanned with
  | arrived object there plain =>
    show tree.Scanned here (part :: rest) (.arrived (normalize here (part :: rest)))
    exact .arrived object there plain
  | link before rest' name info text split there =>
    exact .link (part :: before) rest' name info text (by simp [split]) there
  | notDirectory before rest' last info split there =>
    exact .notDirectory (part :: before) rest' last info (by simp [split]) there
  | missing before rest' name split there absent =>
    exact .missing (part :: before) rest' name (by simp [split]) there absent

/-- Past the start a stretch goes on as long as it is in a directory or at its end. -/
theorem scanned_of_plain {object : Object ν ι} (there : tree.object here = some object)
    (plain : object.isLink = false) : tree.Scanned here parts (tree.scan here parts).2 := by
  induction parts generalizing here object with
  | nil => exact .arrived object there plain
  | cons part rest ih =>
    unfold scan
    cases object with
    | link info text => simp [Object.isLink] at plain
    | file info =>
      rw [there]
      exact .notDirectory [] rest part info rfl there
    | directory info =>
      rw [there]
      cases part with
      | stay => exact Scanned.cons (ih there plain)
      | up =>
        obtain ⟨outer, above⟩ := isDirectory_dropLast (by rw [there]; rfl)
        have onward : tree.Scanned (Part.up.follow here) rest _ := ih above rfl
        exact onward.cons
      | name name =>
        cases next : tree.object (here ++ [name]) with
        | none =>
          simp only [next]
          exact .missing [] rest name rfl ⟨info, there⟩ next
        | some object =>
          cases object with
          | link info' text =>
            simp only [next]
            exact .link [] rest name info' text rfl next
          | file info' =>
            simp only [next]
            have onward : tree.Scanned ((Part.name name).follow here) rest _ := ih next rfl
            exact onward.cons
          | directory info' =>
            simp only [next]
            have onward : tree.Scanned ((Part.name name).follow here) rest _ := ih next rfl
            exact onward.cons

theorem mem_stages (links : ℕ) (stage : Stage ν) : stage ∈ tree.stages links stage := by
  unfold stages
  exact List.mem_cons_self

theorem stages_of_link {links : ℕ} {stage : Stage ν} {path : List ν} {text : Route ν}
    {rest : List (Part ν)} (stop : (tree.scan stage.start stage.parts).2 = .link path text rest) :
    tree.stages (links + 1) stage = stage :: tree.stages links (.ofLink path text rest) := by
  conv_lhs => unfold stages
  rw [stop]

theorem resolve_of_link {links : ℕ} {path : List ν} {text : Route ν} {rest : List (Part ν)}
    (stop : (tree.scan here parts).2 = .link path text rest) :
    tree.resolve (links + 1) here parts =
      (tree.resolve links (text.start path.dropLast) (text.parts ++ rest)).map
        ((tree.scan here parts).1 ++ ·) id := by
  rcases scanned : tree.scan here parts with ⟨visited, found⟩
  rw [scanned] at stop
  subst stop
  conv_lhs => unfold resolve
  rw [scanned]

theorem resolve_of_arrived {links : ℕ} {path : List ν}
    (stop : (tree.scan here parts).2 = .arrived path) :
    tree.resolve links here parts = ((tree.scan here parts).1, .ok path) := by
  rcases scanned : tree.scan here parts with ⟨visited, found⟩
  rw [scanned] at stop
  subst stop
  unfold resolve
  rw [scanned]

/-- What a stretch from a directory visits: directories that lie on its way, and where
it stops. -/
theorem mem_scan {path : List ν} (visited : path ∈ (tree.scan here parts).1) :
    (tree.IsDirectory path ∧ ∃ before after, parts = before ++ after ∧
      path = normalize here before) ∨
    (tree.scan here parts).2 = .arrived path ∨
    (∃ text rest, (tree.scan here parts).2 = .link path text rest) ∨
    ∃ errno, (tree.scan here parts).2 = .failed errno := by
  induction parts generalizing here with
  | nil =>
    simp only [scan, List.mem_singleton] at visited
    exact .inr (.inl (by rw [visited]; rfl))
  | cons part rest ih =>
    -- the stretch from the next position, seen from here
    have later {here' : List ν} (moved : here' = part.follow here)
        (visited : path ∈ (tree.scan here' rest).1) :
        (tree.IsDirectory path ∧ ∃ before after, part :: rest = before ++ after ∧
          path = normalize here before) ∨
        (tree.scan here' rest).2 = .arrived path ∨
        (∃ text rest', (tree.scan here' rest).2 = .link path text rest') ∨
        ∃ errno, (tree.scan here' rest).2 = .failed errno := by
      subst moved
      obtain ⟨directory, before, after, split, position⟩ | other := ih visited
      · exact .inl ⟨directory, part :: before, after, by simp [split], position⟩
      · exact .inr other
    unfold scan at visited ⊢
    -- the stretch goes on only from a directory
    cases there : tree.object here with
    | none => exact .inr (.inr (.inr ⟨_, rfl⟩))
    | some object =>
      cases object with
      | file info => exact .inr (.inr (.inr ⟨_, rfl⟩))
      | link info text => exact .inr (.inr (.inr ⟨_, rfl⟩))
      | directory info =>
        have atStart : tree.IsDirectory here ∧ ∃ before after, part :: rest = before ++ after ∧
            here = normalize here before := ⟨⟨info, there⟩, [], part :: rest, rfl, rfl⟩
        rw [there] at visited
        cases part with
        | stay => exact later rfl visited
        | up =>
          obtain rfl | visited := List.mem_cons.mp visited
          · exact .inl atStart
          · exact later rfl visited
        | name name =>
          -- a link ends the stretch, anything else is visited in its turn
          cases next : tree.object (here ++ [name]) with
          | none =>
            simp only [next]
            exact .inr (.inr (.inr ⟨_, rfl⟩))
          | some object =>
            simp only [next] at visited
            cases object with
            | link info' text =>
              simp only [next]
              simp only [List.mem_cons, List.not_mem_nil, or_false] at visited
              obtain rfl | rfl := visited
              · exact .inl atStart
              · exact .inr (.inr (.inl ⟨text, rest, rfl⟩))
            | file info' =>
              simp only [next]
              obtain rfl | visited := List.mem_cons.mp visited
              · exact .inl atStart
              · exact later rfl visited
            | directory info' =>
              simp only [next]
              obtain rfl | visited := List.mem_cons.mp visited
              · exact .inl atStart
              · exact later rfl visited

/-- The object at a path in a directory. -/
theorem lstat_eq {path : List ν} (directory : tree.IsDirectory path) (links : ℕ) (name : ν) :
    tree.lstat links (path ++ [name]) =
      match tree.object (path ++ [name]) with
      | some object => .ok object
      | none => .error .missing := by
  have straight (here names : List ν) (directory : tree.IsDirectory (here ++ names)) :
      (tree.scan here (names.map .name)).2 = .arrived (here ++ names) := by
    induction names generalizing here with
    | nil => simp [scan]
    | cons name names ih =>
      obtain ⟨info, there⟩ := directory.of_append
      have onward : tree.IsDirectory (here ++ [name] ++ names) := by simpa using directory
      obtain ⟨info', next⟩ := onward.of_append
      simpa [scan, there, next] using ih (here ++ [name]) onward
  have reached : (tree.resolve links [] (path.map .name)).2 = .ok path := by
    rw [resolve_of_arrived (straight [] path directory)]
    rfl
  obtain ⟨info, there⟩ := directory
  simp only [lstat, List.getLast?_concat, List.dropLast_concat, reached, there]
  cases tree.object (path ++ [name]) <;> rfl

/-! ## Agreement with normalization -/

variable (tree) in
/-- Every `..` leaves a real directory. -/
def LeavesDirectories (here : List ν) (parts : List (Part ν)) : Prop :=
  ∀ before after, parts = before ++ .up :: after → tree.IsDirectory (normalize here before)

/-- What stands where no real directory does is not left again, so that the end lies
under it. -/
theorem ends_of_not_directory (leaves : tree.LeavesDirectories here parts)
    {before rest : List (Part ν)} (split : parts = before ++ rest)
    (other : ¬ tree.IsDirectory (normalize here before)) :
    .up ∉ rest ∧ normalize here parts = normalize here before ++ namesOf rest := by
  have plain : .up ∉ rest := by
    intro member
    obtain ⟨first, after, rfl, plain⟩ := List.eq_append_cons_of_mem member
    have left := leaves (before ++ first) after (by simp [split])
    rw [normalize_append, normalize_of_no_up plain] at left
    exact other left.of_append
  exact ⟨plain, by rw [split, normalize_append, normalize_of_no_up plain]⟩

theorem not_isDirectory_of_eq {path : List ν} {object : Object ν ι}
    (there : tree.object path = some object) (other : object.isDirectory = false) :
    ¬ tree.IsDirectory path := by
  rintro ⟨info, directory⟩
  rw [directory] at there
  obtain rfl := Option.some.inj there
  simp [Object.isDirectory] at other

theorem not_isDirectory_of_none {path : List ν} (absent : tree.object path = none) :
    ¬ tree.IsDirectory path := by
  rintro ⟨info, directory⟩
  rw [directory] at absent
  cases absent

/-- A path on the way of a stretch leads to its end or is left by a `..`. -/
theorem prefix_or_left {path here : List ν} (front : path <+: here) (parts : List (Part ν)) :
    path <+: normalize here parts ∨
      ∃ before after, parts = before ++ .up :: after ∧ normalize here before = path := by
  induction parts generalizing here with
  | nil => exact .inl front
  | cons part rest ih =>
    have later {here' : List ν} (moved : here' = part.follow here) (front : path <+: here') :
        path <+: normalize here' rest ∨
          ∃ before after, part :: rest = before ++ .up :: after ∧ normalize here before = path := by
      subst moved
      obtain onward | ⟨before, after, split, position⟩ := ih front
      · exact .inl onward
      · exact .inr ⟨part :: before, after, by simp [split], position⟩
    cases part with
    | stay => exact later rfl front
    | name name => exact later rfl (front.trans (List.prefix_append _ _))
    | up =>
      by_cases same : path = here
      · exact .inr ⟨[], rest, rfl, same.symm⟩
      · refine later rfl ?_
        -- A proper prefix stays one when the last name goes.
        obtain ⟨names, rfl⟩ := front
        cases names using List.reverseRecOn with
        | nil => simp at same
        | append_singleton names name =>
          simp only [Part.follow, ← List.append_assoc, List.dropLast_concat]
          exact List.prefix_append _ _

variable (tree) in
/-- Whatever lies above a path is a real directory. -/
def LedTo (path : List ν) : Prop :=
  ∀ front, front <+: path → front ≠ path → tree.IsDirectory front

/-- Whatever is no directory and leads to a path is the path. -/
theorem LedTo.eq_of_not_directory {front path : List ν} (led : tree.LedTo path)
    (leads : front <+: path) (other : ¬ tree.IsDirectory front) : front = path := by
  by_contra different
  exact other (led front leads different)

theorem ledTo_nil : tree.LedTo ([] : List ν) :=
  fun _ leads proper => absurd (List.prefix_nil.mp leads) proper

theorem IsDirectory.ledTo {path : List ν} (directory : tree.IsDirectory path) (name : ν) :
    tree.LedTo (path ++ [name]) := by
  intro front leads proper
  obtain rfl | ⟨names, rfl⟩ := List.prefix_concat_iff.mp leads
  · exact absurd rfl proper
  · exact directory.of_append

/-- If normalization ends at a file in real directories, resolution arrives there. -/
theorem scan_final (directory : tree.IsDirectory here)
    (leaves : tree.LeavesDirectories here parts) (led : tree.LedTo (normalize here parts))
    {info : ι} (file : tree.object (normalize here parts) = some (.file info))
    (named : parts.getLast? ≠ some .stay) :
    (tree.scan here parts).2 = .arrived (normalize here parts) := by
  obtain ⟨startInfo, startThere⟩ := directory
  have scanned : tree.Scanned here parts (tree.scan here parts).2 :=
    scanned_of_plain startThere rfl
  generalize (tree.scan here parts).2 = stop at scanned
  cases scanned with
  | arrived => rfl
  | link before rest name linkInfo text split there =>
    have other := not_isDirectory_of_eq there rfl
    rw [← normalize_concat] at there other
    obtain ⟨-, ends⟩ := ends_of_not_directory leaves (split.trans (List.append_cons ..)) other
    have same := led.eq_of_not_directory (ends ▸ List.prefix_append _ _) other
    rw [same, file] at there
    cases there
  | missing before rest name split there absent =>
    have other := not_isDirectory_of_none absent
    rw [← normalize_concat] at absent other
    obtain ⟨-, ends⟩ := ends_of_not_directory leaves (split.trans (List.append_cons ..)) other
    have same := led.eq_of_not_directory (ends ▸ List.prefix_append _ _) other
    rw [same, file] at absent
    cases absent
  | notDirectory before rest part fileInfo split there =>
    have other := not_isDirectory_of_eq there rfl
    obtain ⟨plain, ends⟩ := ends_of_not_directory leaves split other
    have same := led.eq_of_not_directory (ends ▸ List.prefix_append _ _) other
    rw [same] at ends
    have nameless : namesOf (part :: rest) = [] := List.self_eq_append_right.mp ends
    -- Only empty parts and dots follow the file.
    refine absurd ?_ named
    rw [split, List.getLast?_append_cons, List.getLast?_eq_some_getLast (List.cons_ne_nil _ _)]
    exact congrArg some (eq_stay_of_nameless plain nameless (List.getLast_mem _))

/-- If normalization goes through a link in real directories, resolution stops there. -/
theorem scan_link (directory : tree.IsDirectory here)
    (leaves : tree.LeavesDirectories here parts) {link tail : List ν}
    (goes : normalize here parts = link ++ tail) (led : tree.LedTo link) {info : ι}
    {text : Route ν} (there : tree.object link = some (.link info text)) :
    ∃ rest, (tree.scan here parts).2 = .link link text rest ∧ .up ∉ rest ∧ namesOf rest = tail := by
  have other := not_isDirectory_of_eq there rfl
  -- Whatever stands in a directory, is none and leads to the end, is the link.
  have eq_link {path : List ν} (leads : path <+: link ++ tail) (plain : ¬ tree.IsDirectory path)
      (parent : tree.IsDirectory path.dropLast) : path = link := by
    obtain before | ⟨names, rfl⟩ := List.prefix_or_prefix_of_prefix leads (List.prefix_append ..)
    · exact led.eq_of_not_directory before plain
    · cases names using List.reverseRecOn with
      | nil => simp
      | append_singleton names name =>
        rw [← List.append_assoc, List.dropLast_concat] at parent
        exact absurd parent.of_append other
  obtain ⟨startInfo, startThere⟩ := directory
  have scanned : tree.Scanned here parts (tree.scan here parts).2 :=
    scanned_of_plain startThere rfl
  generalize (tree.scan here parts).2 = stop at scanned
  cases scanned with
  | arrived object ends plain =>
    rw [goes] at ends
    have stands : ¬ tree.IsDirectory (link ++ tail) := fun directory => other directory.of_append
    have same := eq_link List.prefix_rfl stands (isDirectory_dropLast (by rw [ends]; rfl))
    rw [same, there] at ends
    obtain rfl := Option.some.inj ends
    cases plain
  | link before rest name linkInfo text' split there' =>
    have stands := not_isDirectory_of_eq there' rfl
    have parent : tree.IsDirectory (normalize here before ++ [name]).dropLast :=
      isDirectory_dropLast (by rw [there']; rfl)
    rw [← normalize_concat] at stands parent there' ⊢
    obtain ⟨plain, ends⟩ := ends_of_not_directory leaves (split.trans (List.append_cons ..)) stands
    have same := eq_link (goes ▸ ends ▸ List.prefix_append _ _) stands parent
    rw [same, there] at there'
    cases there'
    rw [goes, same] at ends
    exact ⟨rest, by rw [same], plain, (List.append_cancel_left ends).symm⟩
  | missing before rest name split parent absent =>
    have stands := not_isDirectory_of_none absent
    rw [← normalize_concat] at stands absent
    obtain ⟨-, ends⟩ := ends_of_not_directory leaves (split.trans (List.append_cons ..)) stands
    have same := eq_link (goes ▸ ends ▸ List.prefix_append _ _) stands
      (by rwa [normalize_concat, List.dropLast_concat])
    rw [same, there] at absent
    cases absent
  | notDirectory before rest part fileInfo split there' =>
    have stands := not_isDirectory_of_eq there' rfl
    obtain ⟨-, ends⟩ := ends_of_not_directory leaves split stands
    have same := eq_link (goes ▸ ends ▸ List.prefix_append _ _) stands
      (isDirectory_dropLast (by rw [there']; rfl))
    rw [same, there] at there'
    cases there'

/-- A stretch that does not fail visits what leads to where it stops, and what a `..`
leaves. -/
theorem mem_scan_of_stop {path stop tail : List ν} (visited : path ∈ (tree.scan here parts).1)
    (stops : (tree.scan here parts).2 = .arrived stop ∨
      ∃ text rest, (tree.scan here parts).2 = .link stop text rest)
    (ends : normalize here parts = stop ++ tail) (other : ¬ tree.IsDirectory stop) :
    path <+: stop ∨ ∃ before after, parts = before ++ .up :: after ∧
      normalize here before = path := by
  obtain ⟨directory, before, after, split, position⟩ | arrived | ⟨text, rest, link⟩ | ⟨_, failed⟩ :=
    mem_scan visited
  · obtain onward | ⟨first, last, split', left⟩ :=
      prefix_or_left (List.prefix_refl (normalize here before)) after
    · left
      rw [← normalize_append, ← split, ← position, ends] at onward
      obtain within | ⟨names, rfl⟩ :=
        List.prefix_or_prefix_of_prefix onward (List.prefix_append ..)
      · exact within
      · exact absurd directory.of_append other
    · refine .inr ⟨before ++ first, last, by rw [split, split', List.append_assoc], ?_⟩
      rw [normalize_append, left, position]
  -- Otherwise it is where the stretch stops.
  all_goals
    left
    obtain arrived' | ⟨text', rest', link'⟩ := stops
    all_goals simp_all

end FileTree

end Semantics
