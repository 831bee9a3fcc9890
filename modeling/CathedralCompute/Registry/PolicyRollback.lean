import CathedralCompute.Registry.PolicyProvider

/-!
# When policies never go back

The mark of a provider is as old as the provider, and nothing keeps the writes of two
providers apart. So a provider that was created before another one accepted a higher
version writes a lower number over it, and returns it. As long as a call goes on only
when no other one is writing, and with a version that the number in the state file
admits too, the numbers never go down.

## Main results

* `versions_never_go_back` — in such a run every returned version is at least every
  earlier one, and the state file covers them all
* `not_versions_never_go_back_stale` — two providers, one of them stale
-/

set_option autoImplicit false

namespace Cathedral.AdmissionPolicy

open Codec Semantics

/-! ## Numbers in files -/

theorem intText_of_pos {z : ℤ} (positive : 0 < z) : intText z = natText z.toNat := by
  obtain ⟨n, rfl⟩ := Int.eq_ofNat_of_zero_le positive.le
  simp [intText]

/-- What is written of a version is read back as the version. -/
theorem readMark_markOctets (snapshot : AdmissionPolicySnapshot) :
    readMark (some (markOctets snapshot.configVersion)) = snapshot.configVersion := by
  obtain ⟨positive, small⟩ := snapshot.bounded
  generalize snapshot.configVersion = version at *
  obtain ⟨n, rfl⟩ := Int.eq_ofNat_of_zero_le positive.le
  have digits : ∀ c ∈ natText n, Text.isDigit c = true := fun c => isDigit_of_mem_natText
  have ascii : (natText n).IsAscii := fun c member => Text.val_lt_of_isDigit (digits c member)
  have short : (natText n).length ≤ 64 :=
    length_natText_le_of_lt (by unfold maxSqliteInteger at small; omega) (by decide)
  have stripped : (natText n).strip = natText n := by
    have plain : ∀ c ∈ natText n, Text.isSpace c = false := by
      intro c member
      have digit := digits c member
      have zero : ('0' : Char).toNat = 48 := rfl
      have nine : ('9' : Char).toNat = 57 := rfl
      simp only [Text.isDigit, Text.inRange, Bool.and_eq_true, decide_eq_true_eq] at digit
      simp [Text.isSpace]
      omega
    rw [Text.strip, Decimal.dropWhile_isSpace plain,
      Decimal.dropWhile_isSpace fun c member => plain c (List.mem_reverse.mp member),
      List.reverse_reverse]
  have filled : natText n ≠ [] := natDigits_ne_nil (Nat.succ_pos _)
  have taken : (natText n).ascii.take 64 = (natText n).ascii :=
    List.take_of_length_le (by simpa [Text.ascii] using short)
  rw [markOctets, intText_of_pos positive, Int.toNat_natCast]
  simp only [readMark, taken, asciiDecode_ascii ascii, Option.map_some, stripped]
  rw [if_pos ⟨filled, List.all_eq_true.mpr digits⟩, natValue_natText]

/-! ## Files -/

/-- Each name has an inode of its own, and new inodes are new. -/
structure Files.Separate (files : Files) : Prop where
  state : ∀ pid inode, files.scratch pid = some inode → files.state ≠ some inode
  scratch : ∀ pid other inode, files.scratch pid = some inode →
    files.scratch other = some inode → pid = other
  bounded : ∀ inode, (files.state = some inode ∨ ∃ pid, files.scratch pid = some inode) →
    inode < files.unused

section Files

variable {files : Files} {pid inode : ℕ}

/-- What is written elsewhere is not in the state file. -/
theorem mark_update (elsewhere : files.state ≠ some inode) (data : Bytes) :
    ({ files with contents := Function.update files.contents inode data } : Files).mark =
      files.mark := by
  unfold Files.mark Files.stateContent
  refine congrArg readMark (Option.map_congr fun other found => ?_)
  refine Function.update_of_ne (fun same => elsewhere ?_) _ _
  rw [← same]
  exact found

theorem Files.Separate.update (separate : files.Separate) (data : Bytes) :
    ({ files with contents := Function.update files.contents inode data } : Files).Separate :=
  ⟨separate.state, separate.scratch, separate.bounded⟩

/-- A name for a new inode. -/
theorem Files.Separate.create (separate : files.Separate) (pid : ℕ) (contents : ℕ → Bytes) :
    (⟨contents, files.state, Function.update files.scratch pid (some files.unused),
      files.unused + 1⟩ : Files).Separate := by
  have named : ∀ other inode, Function.update files.scratch pid (some files.unused) other =
      some inode → (other = pid ∧ inode = files.unused) ∨
        (inode < files.unused ∧ files.scratch other = some inode) := by
    intro other inode named
    by_cases same : other = pid
    · rw [same, Function.update_self] at named
      exact .inl ⟨same, (Option.some.inj named).symm⟩
    · rw [Function.update_of_ne same] at named
      exact .inr ⟨separate.bounded inode (.inr ⟨other, named⟩), named⟩
  refine ⟨fun other inode held same => ?_, fun one two inode held held' => ?_, ?_⟩
  · have below := separate.bounded inode (.inl same)
    rcases named other inode held with ⟨-, rfl⟩ | ⟨-, held⟩
    · exact absurd below (lt_irrefl _)
    · exact separate.state other inode held same
  · rcases named one inode held with ⟨rfl, rfl⟩ | ⟨below, held⟩ <;>
      rcases named two _ held' with ⟨rfl, same⟩ | ⟨below', held'⟩
    · rfl
    · exact absurd below' (lt_irrefl _)
    · exact absurd (same ▸ below) (lt_irrefl _)
    · exact separate.scratch one two inode held held'
  · rintro inode (same | ⟨other, held⟩)
    · exact Nat.lt_succ_of_lt (separate.bounded inode (.inl same))
    · rcases named other inode held with ⟨-, rfl⟩ | ⟨below, -⟩
      · exact Nat.lt_succ_self _
      · exact Nat.lt_succ_of_lt below

/-- An opened scratch file is empty, and nothing else changed. -/
theorem openScratch_spec (separate : files.Separate) (pid : ℕ) :
    (files.openScratch pid).2.Separate ∧ (files.openScratch pid).2.mark = files.mark ∧
      (files.openScratch pid).2.scratch pid = some (files.openScratch pid).1 ∧
      (files.openScratch pid).2.contents (files.openScratch pid).1 = [] := by
  cases found : files.scratch pid with
  | some inode =>
    simp only [Files.openScratch, found]
    exact ⟨separate.update _, mark_update (separate.state pid inode found) _, trivial,
      Function.update_self _ _ _⟩
  | none =>
    have fresh : files.state ≠ some files.unused := fun same =>
      absurd (separate.bounded _ (.inl same)) (lt_irrefl _)
    simp only [Files.openScratch, found]
    exact ⟨separate.create pid _, mark_update fresh _, Function.update_self _ _ _,
      Function.update_self _ _ _⟩

/-- A name that goes away. -/
theorem Files.Separate.unname (separate : files.Separate) (pid : ℕ) {state : Option ℕ}
    (kept : ∀ inode, state = some inode → files.state = some inode ∨
      files.scratch pid = some inode) :
    ({ files with state := state, scratch := Function.update files.scratch pid none } :
      Files).Separate := by
  have named : ∀ other inode, Function.update files.scratch pid none other = some inode →
      other ≠ pid ∧ files.scratch other = some inode := by
    intro other inode named
    by_cases same : other = pid
    · rw [same, Function.update_self] at named
      cases named
    · rw [Function.update_of_ne same] at named
      exact ⟨same, named⟩
  refine ⟨fun other inode held same => ?_, fun one two inode held held' => ?_, ?_⟩
  · obtain ⟨different, held⟩ := named other inode held
    rcases kept inode same with state | scratch
    · exact separate.state other inode held state
    · exact different (separate.scratch other pid inode held scratch)
  · exact separate.scratch one two inode (named one inode held).2 (named two inode held').2
  · rintro inode (same | ⟨other, held⟩)
    · exact separate.bounded inode ((kept inode same).imp_right fun scratch => ⟨pid, scratch⟩)
    · exact separate.bounded inode (.inr ⟨other, (named other inode held).2⟩)

end Files

/-! ## The invariant -/

/-- What is known of the files while a call is in a phase. -/
def Phase.Fits (files : Files) (pid : ℕ) : Phase → Prop
  | .idle => True
  | .advancing snapshot => files.mark ≤ snapshot.configVersion
  | .opened snapshot inode => files.mark ≤ snapshot.configVersion ∧
      files.scratch pid = some inode ∧ files.contents inode = []
  | .written snapshot inode => files.mark ≤ snapshot.configVersion ∧
      files.scratch pid = some inode ∧ files.contents inode = markOctets snapshot.configVersion
  | .replaced snapshot => files.mark = snapshot.configVersion

/-- One call writes at most, the versions that were returned go up, and the state file
covers them. -/
structure World.Sound (w : World) : Prop where
  separate : w.files.Separate
  alone : ∀ one two provider provider', w.providers one = some provider →
    w.providers two = some provider' → provider.phase ≠ .idle → provider'.phase ≠ .idle → one = two
  fits : ∀ name provider, w.providers name = some provider →
    provider.phase.Fits w.files provider.pid
  covered : ∀ version ∈ w.returned, version ≤ w.files.mark
  ordered : w.returned.Pairwise (· ≥ ·)

section Steps

variable {w : World} {name : ℕ} {provider : Provider}

/-- A provider changes while all others are idle, and the mark does not go down. -/
theorem World.Sound.put (sound : w.Sound) {files : Files}
    (idle : ∀ other provider', other ≠ name → w.providers other = some provider' →
      provider'.phase = .idle)
    (separate : files.Separate) (up : w.files.mark ≤ files.mark)
    (fits : provider.phase.Fits files provider.pid) : (w.put name provider files).Sound where
  separate := separate
  alone one two := by
    have only : ∀ other provider', (w.put name provider files).providers other = some provider' →
        provider'.phase ≠ .idle → other = name := by
      intro other provider' found busy
      by_contra different
      rw [World.providers_put, if_neg different] at found
      exact busy (idle other provider' different found)
    intro provider' provider'' found found' busy busy'
    exact (only one provider' found busy).trans (only two provider'' found' busy').symm
  fits other provider' found := by
    by_cases same : other = name
    · rw [World.providers_put, if_pos same] at found
      cases found
      exact fits
    · rw [World.providers_put, if_neg same] at found
      rw [idle other provider' same found]
      trivial
  covered version listed := (sound.covered version listed).trans up
  ordered := sound.ordered

/-- While one call writes, all other providers are idle. -/
theorem World.Sound.idle (sound : w.Sound) (found : w.providers name = some provider)
    (busy : provider.phase ≠ .idle) : ∀ other provider', other ≠ name →
      w.providers other = some provider' → provider'.phase = .idle := by
  intro other provider' different found'
  by_contra busy'
  exact different (sound.alone other name provider' provider found' found busy' busy)

theorem World.Sound.give (sound : w.Sound) {version : ℤ} (mark : w.files.mark = version) :
    (w.give version).Sound where
  separate := sound.separate
  alone := sound.alone
  fits := sound.fits
  covered := by
    intro other listed
    rcases List.mem_cons.mp listed with rfl | listed
    · exact mark.ge
    · exact sound.covered other listed
  ordered := List.pairwise_cons.mpr
    ⟨fun other listed => mark ▸ sound.covered other listed, sound.ordered⟩

/-- The call of a load that its provider would go on with finds no other call writing,
and a number in the state file that is not above the version; and is the version, if
it is to be returned without a write. -/
def Op.Admitted (w : World) : Op → Prop
  | .load name (some snapshot) => ∀ provider, w.providers name = some provider →
      provider.phase = .idle → provider.pinnedDigest.any (· ≠ snapshot.digest) = false →
      provider.highestConfigVersion ≤ snapshot.configVersion →
        (∀ other provider', w.providers other = some provider' → provider'.phase = .idle) ∧
        w.files.mark ≤ snapshot.configVersion ∧
        (provider.highestConfigVersion = snapshot.configVersion →
          w.files.mark = snapshot.configVersion)
  | _ => True

theorem sound_compare (sound : w.Sound) {snapshot : AdmissionPolicySnapshot}
    (found : w.providers name = some provider) (idle : provider.phase = .idle)
    (admitted : (Op.load name (some snapshot)).Admitted w) :
    (w.compare name provider snapshot).Sound := by
  unfold World.compare
  split_ifs with pinned lower higher
  · exact sound
  · exact sound
  · obtain ⟨others, mark, -⟩ := admitted provider found idle (by simpa using pinned) higher.le
    exact sound.put (fun other provider' _ => others other provider') sound.separate le_rfl mark
  · have same := le_antisymm (not_lt.mp lower) (not_lt.mp higher)
    obtain ⟨-, -, mark⟩ := admitted provider found idle (by simpa using pinned) (not_lt.mp lower)
    exact sound.give (mark (le_antisymm (not_lt.mp lower) (not_lt.mp higher)))

theorem sound_openScratch (sound : w.Sound) (found : w.providers name = some provider) :
    (w.openScratch name provider).Sound := by
  unfold World.openScratch
  split
  case h_1 snapshot phase =>
    have fits := sound.fits name provider found
    rw [phase] at fits
    obtain ⟨separate, mark, named, empty⟩ := openScratch_spec sound.separate provider.pid
    exact sound.put (sound.idle found (by rw [phase]; exact nofun)) separate mark.ge
      ⟨mark ▸ fits, named, empty⟩
  case h_2 => exact sound

theorem sound_write (sound : w.Sound) (found : w.providers name = some provider) :
    (w.write name provider).Sound := by
  unfold World.write
  split
  case h_1 snapshot inode phase =>
    have fits := sound.fits name provider found
    rw [phase] at fits
    obtain ⟨up, named, empty⟩ := fits
    have mark : (w.files.write inode (markOctets snapshot.configVersion)).mark = w.files.mark :=
      mark_update (sound.separate.state provider.pid inode named) _
    refine sound.put (sound.idle found (by rw [phase]; exact nofun)) (sound.separate.update _)
      mark.ge ⟨mark.trans_le up, named, ?_⟩
    simp [Files.write, empty]
  case h_2 => exact sound

/-- A call that gives up leaves the state file alone. -/
theorem sound_abandon (sound : w.Sound) (found : w.providers name = some provider)
    (busy : provider.phase ≠ .idle) (unlinks : Bool) {files : Files} (separate : files.Separate)
    (mark : files.mark = w.files.mark) : (w.abandon name provider unlinks files).Sound := by
  unfold World.abandon
  refine sound.put (sound.idle found busy) ?_ ?_ trivial
  · split
    · exact separate.unname provider.pid fun inode same => .inl same
    · exact separate
  · split
    · exact mark.ge
    · exact mark.ge

theorem sound_replace (sound : w.Sound) (found : w.providers name = some provider) :
    (w.replace name provider).Sound := by
  unfold World.replace
  split
  case h_1 snapshot inode phase =>
    have busy : provider.phase ≠ .idle := by rw [phase]; exact nofun
    have fits := sound.fits name provider found
    rw [phase] at fits
    obtain ⟨up, named, content⟩ := fits
    have renamed : w.files.replace provider.pid = some { w.files with
        state := some inode, scratch := Function.update w.files.scratch provider.pid none } := by
      rw [Files.replace, named, Option.map_some]
    rw [renamed]
    have mark : ({ w.files with
        state := some inode, scratch := Function.update w.files.scratch provider.pid none } :
          Files).mark = snapshot.configVersion := by
      rw [Files.mark, Files.stateContent, Option.map_some, content]
      exact readMark_markOctets snapshot
    refine sound.put (sound.idle found busy) ?_ (up.trans mark.ge) mark
    refine sound.separate.unname provider.pid fun other same => .inr ?_
    rw [named, same]
  case h_2 => exact sound

theorem sound_sync (sound : w.Sound) (found : w.providers name = some provider) :
    (w.sync name provider).Sound := by
  unfold World.sync
  split
  case h_1 snapshot phase =>
    have fits := sound.fits name provider found
    rw [phase] at fits
    let synced : Provider :=
      { provider with highestConfigVersion := snapshot.configVersion, phase := .idle }
    have put := @World.Sound.put _ _ synced sound _
      (sound.idle found (by rw [phase]; exact nofun)) sound.separate le_rfl trivial
    exact put.give fits
  case h_2 => exact sound

theorem sound_fail (sound : w.Sound) (found : w.providers name = some provider) (cut : ℕ)
    (unlinks : Bool) : (w.fail name provider cut unlinks).Sound := by
  unfold World.fail
  split
  case h_1 => exact sound
  case h_2 snapshot inode phase =>
    have fits := sound.fits name provider found
    rw [phase] at fits
    obtain ⟨-, named, -⟩ := fits
    exact sound_abandon sound found (by rw [phase]; exact nofun) unlinks (sound.separate.update _)
      (mark_update (sound.separate.state provider.pid inode named) _)
  case h_3 busy _ => exact sound_abandon sound found busy unlinks sound.separate rfl

/-- A step of a provider is its own, or none where there is no such provider. -/
theorem World.on_induction {motive : World → Prop} (still : motive w) (name : ℕ)
    (act : Provider → World → World)
    (acts : ∀ provider, w.providers name = some provider → motive (act provider w)) :
    motive (w.on name act) := by
  unfold World.on
  split
  · next provider found => exact acts provider found
  · exact still

/-- Every admitted step keeps the invariant. -/
theorem sound_step (w : World) (op : Op) (sound : w.Sound) (admitted : op.Admitted w) :
    (w.step op).Sound := by
  have on := World.on_induction (motive := World.Sound) sound
  cases op with
  | create name pid pinnedDigest readable =>
    simp only [World.step]
    split
    · exact sound
    · next absent =>
      -- a new provider is idle, and the others do what they did
      have before : ∀ other provider', (w.put name
          ⟨pid, pinnedDigest, loadHighWater w.files readable, .idle⟩ w.files).providers other =
            some provider' → provider'.phase ≠ .idle → w.providers other = some provider' := by
        intro other provider' found busy
        rw [World.providers_put] at found
        split at found
        · cases found
          exact absurd rfl busy
        · exact found
      refine ⟨sound.separate, ?_, ?_, sound.covered, sound.ordered⟩
      · intro one two provider provider' found found' busy busy'
        exact sound.alone one two provider provider' (before one provider found busy)
          (before two provider' found' busy') busy busy'
      · intro other provider' found
        by_cases busy : provider'.phase = .idle
        · rw [busy]
          trivial
        · exact sound.fits other provider' (before other provider' found busy)
  | load name verified =>
    refine on name _ fun provider found => ?_
    unfold World.load
    split
    · next snapshot idle => exact sound_compare sound found idle admitted
    · exact sound
  | openScratch name => exact on name _ fun _ found => sound_openScratch sound found
  | write name => exact on name _ fun _ found => sound_write sound found
  | replace name => exact on name _ fun _ found => sound_replace sound found
  | sync name => exact on name _ fun _ found => sound_sync sound found
  | fail name cut unlinks => exact on name _ fun _ found => sound_fail sound found cut unlinks
  | exit pid =>
    have before : ∀ other provider', (w.step (.exit pid)).providers other = some provider' →
        w.providers other = some provider' :=
      fun other provider' found => (Option.filter_eq_some_iff.mp found).1
    refine ⟨sound.separate, ?_, ?_, sound.covered, sound.ordered⟩
    · intro one two provider provider' found found'
      exact sound.alone one two provider provider' (before one provider found)
        (before two provider' found')
    · exact fun other provider' found => sound.fits other provider' (before other provider' found)

end Steps

/-! ## Runs -/

theorem sound_start (content : Option Bytes) : (World.start content).Sound where
  separate := by
    refine ⟨nofun, nofun, ?_⟩
    rintro inode (same | ⟨_, impossible⟩)
    · obtain ⟨_, -, rfl⟩ := Option.map_eq_some_iff.mp same
      exact Nat.zero_lt_one
    · cases impossible
  alone := nofun
  fits := nofun
  covered := nofun
  ordered := .nil

/-- **No rollback.** From any state file, in every run of providers whose calls are
admitted: no version is returned after a higher one, and the number in the state file
is at least every version that was returned. -/
theorem versions_never_go_back (content : Option Bytes) (ops : List Op)
    (admitted : Along World.step (fun w op => op.Admitted w) (World.start content) ops) :
    (run World.step (World.start content) ops).returned.Pairwise (· ≥ ·) ∧
      ∀ version ∈ (run World.step (World.start content) ops).returned,
        version ≤ (run World.step (World.start content) ops).files.mark := by
  have sound := invariant_along sound_step (sound_start content) admitted
  exact ⟨sound.ordered, sound.covered⟩

/-- A policy with a version. -/
def sampleSnapshot (version : ℤ) (bounded : 0 < version ∧ version ≤ maxSqliteInteger) :
    AdmissionPolicySnapshot := ⟨version, Text.ofString "sha256:0", bounded⟩

/-- A call of a provider that goes through. -/
def fullLoad (name : ℕ) (snapshot : AdmissionPolicySnapshot) : List Op :=
  [.load name (some snapshot), .openScratch name, .write name, .replace name, .sync name]

/-- Two providers of two processes, both created before the first policy. -/
def bothCreated : List Op := [.create 0 7 none true, .create 1 8 none true]

/-- The two providers accept versions in the order of the versions. -/
def orderedRun : List Op :=
  bothCreated ++ fullLoad 0 (sampleSnapshot 3 (by decide)) ++
    fullLoad 1 (sampleSnapshot 5 (by decide))

/-- A provider that is not created is not there. -/
theorem absent_step {w : World} {op : Op} {name : ℕ} (absent : w.providers name = none)
    (uncreated : ∀ pid pinnedDigest readable, op ≠ .create name pid pinnedDigest readable) :
    (w.step op).providers name = none := by
  have put : ∀ other provider files, other ≠ name →
      (w.put other provider files).providers name = w.providers name := by
    intro other provider files different
    rw [World.providers_put, if_neg different.symm]
  -- whoever acts is another provider
  have on : ∀ (other : ℕ) (act : Provider → World → World),
      (other ≠ name → ∀ provider, (act provider w).providers name = w.providers name) →
      (w.on other act).providers name = none := by
    intro other act elsewhere
    refine World.on_induction (motive := fun w' => w'.providers name = none) absent other act ?_
    intro provider found
    have different : other ≠ name := by
      rintro rfl
      rw [absent] at found
      cases found
    rw [elsewhere different provider, absent]
  cases op with
  | create other pid pinnedDigest readable =>
    have different : other ≠ name := by
      rintro rfl
      exact uncreated pid pinnedDigest readable rfl
    simp only [World.step]
    split
    · exact absent
    · rw [put other _ _ different, absent]
  | load other verified =>
    refine on other _ fun different provider => ?_
    unfold World.load World.compare
    split
    · split_ifs
      · rfl
      · rfl
      · exact put other _ _ different
      · rfl
    · rfl
  | openScratch other =>
    refine on other _ fun different provider => ?_
    unfold World.openScratch
    split
    · exact put other _ _ different
    · rfl
  | write other =>
    refine on other _ fun different provider => ?_
    unfold World.write
    split
    · exact put other _ _ different
    · rfl
  | replace other =>
    refine on other _ fun different provider => ?_
    unfold World.replace World.abandon
    split
    · split
      · exact put other _ _ different
      · exact put other _ _ different
    · rfl
  | sync other =>
    refine on other _ fun different provider => ?_
    unfold World.sync
    split
    · exact put other _ w.files different
    · rfl
  | fail other cut unlinks =>
    refine on other _ fun different provider => ?_
    unfold World.fail World.abandon
    split
    · rfl
    · exact put other _ _ different
    · exact put other _ _ different
  | exit pid =>
    -- what is filtered out was not there
    show (w.providers name).filter _ = none
    rw [absent]
    rfl

theorem absent_run {ops : List Op} {name : ℕ}
    (uncreated : ∀ pid pinnedDigest readable, .create name pid pinnedDigest readable ∉ ops) :
    (run World.step (World.start none) ops).providers name = none := by
  have along : Along World.step (fun _ op => ∀ pid pinnedDigest readable,
      op ≠ .create name pid pinnedDigest readable) (World.start none) ops := by
    refine along_of_forall fun op member _ pid pinnedDigest readable same => ?_
    rw [same] at member
    exact uncreated pid pinnedDigest readable member
  have kept : ∀ w op, w.providers name = none → (∀ pid pinnedDigest readable,
      op ≠ .create name pid pinnedDigest readable) → (World.step w op).providers name = none :=
    fun _ _ absent => absent_step absent
  exact invariant_along kept rfl along

/-- Where only the first two providers were created, and both are idle, every one is. -/
theorem all_idle {ops : List Op}
    (created : ∀ name pid pinnedDigest readable, .create name pid pinnedDigest readable ∈ ops →
      name = 0 ∨ name = 1)
    (first : ∀ provider ∈ (run World.step (World.start none) ops).providers 0,
      provider.phase = .idle)
    (second : ∀ provider ∈ (run World.step (World.start none) ops).providers 1,
      provider.phase = .idle) :
    ∀ name provider, (run World.step (World.start none) ops).providers name = some provider →
      provider.phase = .idle := by
  intro name provider found
  by_cases known : name = 0 ∨ name = 1
  · rcases known with rfl | rfl
    · exact first provider found
    · exact second provider found
  · rw [absent_run fun pid pinnedDigest readable member =>
      known (created name pid pinnedDigest readable member)] at found
    cases found

theorem versions_never_go_back_two :
    (run World.step (World.start none) orderedRun).returned = [5, 3] ∧
      (run World.step (World.start none) orderedRun).returned.Pairwise (· ≥ ·) ∧
      ∀ version ∈ (run World.step (World.start none) orderedRun).returned,
        version ≤ (run World.step (World.start none) orderedRun).files.mark := by
  refine ⟨by decide +kernel, versions_never_go_back none orderedRun ?_⟩
  -- between the loads both providers are idle, and there is no other
  have created : ∀ other provider', (run World.step (World.start none) bothCreated).providers
      other = some provider' → provider'.phase = .idle := by
    apply all_idle
    · intro name pid pinnedDigest readable member
      simp [bothCreated] at member
      omega
    · rintro _ ⟨⟩
      rfl
    · rintro _ ⟨⟩
      rfl
  have loaded : ∀ other provider', (run World.step (World.start none)
      (bothCreated ++ fullLoad 0 (sampleSnapshot 3 (by decide)))).providers other =
        some provider' → provider'.phase = .idle := by
    apply all_idle
    · intro name pid pinnedDigest readable member
      simp [bothCreated, fullLoad] at member
      omega
    · rintro _ ⟨⟩
      rfl
    · rintro _ ⟨⟩
      rfl
  refine ⟨trivial, trivial, ?_, trivial, trivial, trivial, trivial, ?_, trivial, trivial, trivial,
    trivial, trivial⟩
  · -- the first load finds no state file, the second one the mark of the first
    intro provider found _ _ _
    cases found
    exact ⟨created, by decide, by decide⟩
  · intro provider found _ _ _
    cases found
    exact ⟨loaded, by decide +kernel, by decide⟩

/-- The same with the versions the other way round. -/
def staleRun : List Op :=
  bothCreated ++ fullLoad 1 (sampleSnapshot 5 (by decide)) ++
    fullLoad 0 (sampleSnapshot 3 (by decide))

/-- The older provider returns version 3 after the other one returned version 5, and
leaves 3 in the state file. -/
theorem not_versions_never_go_back_stale :
    ¬ ∀ (content : Option Bytes) (ops : List Op),
      (run World.step (World.start content) ops).returned.Pairwise (· ≥ ·) ∧
        ∀ version ∈ (run World.step (World.start content) ops).returned,
          version ≤ (run World.step (World.start content) ops).files.mark := by
  intro claim
  obtain ⟨ordered, covered⟩ := claim none staleRun
  have returned : (run World.step (World.start none) staleRun).returned = [3, 5] := by
    decide +kernel
  rw [returned] at ordered
  exact absurd ordered (by decide)

end Cathedral.AdmissionPolicy
