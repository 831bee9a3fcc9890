import CathedralCompute.Platform
import Mathlib.Algebra.Order.Ring.Rat
import Mathlib.Tactic.Linarith

/-!
# Limiting calls by address

The enrollment service counts the recent calls of each address in an ordered map of
bounded size. One call drops the addresses without recent calls, makes room by forgetting
the addresses that were seen longest ago, and then looks its own address up.

The clock only moves forward, and its times are exact.

## Main definitions

* `IpRateLimiter.allow`
* `IpRateLimiter.HasRoom` — fewer addresses with recent calls than the map may hold

## Main results

* `tracked_and_limited` — the map stays within its bound; where every call finds room, no
  address is allowed more calls than the limit in any window
* `allFindRoom_of_few` — with fewer addresses than the map may hold, every call finds room
* `forgets_none_iff` — room is what keeps a call from forgetting recent calls
-/

set_option autoImplicit false

namespace Cathedral.Enrollment

open Codec

/-- The configuration of an `IpRateLimiter`. -/
structure IpRateLimiter where
  limit : ℕ
  windowSeconds : ℕ
  maxKeys : ℕ
  limit_pos : 0 < limit
  windowSeconds_pos : 0 < windowSeconds
  maxKeys_pos : 0 < maxKeys

/-- `_hits`: the recent calls of each address, oldest first; the addresses in the order
they were last looked up. -/
abbrev Hits := List (Text × List ℚ)

/-- Whether an address has had no call since the cutoff. -/
def isExpired (cutoff : ℚ) (calls : List ℚ) : Bool :=
  match calls.getLast? with
  | none => true
  | some last => last < cutoff

/-- The addresses with calls since the cutoff. -/
def unexpired (cutoff : ℚ) (hits : Hits) : Hits :=
  hits.filter fun entry => ¬ isExpired cutoff entry.2

namespace IpRateLimiter

variable (limiter : IpRateLimiter)

/-- The time before which calls no longer count. -/
def cutoff (now : ℚ) : ℚ := now - limiter.windowSeconds

/-- `_evict`. -/
def evict (cutoff : ℚ) (hits : Hits) : Hits :=
  let kept := unexpired cutoff hits
  kept.drop (kept.length + 1 - limiter.maxKeys)

/-- `allow`: whether the call is allowed, and the map after it. -/
def allow (now : ℚ) (ip : Text) (hits : Hits) : Bool × Hits :=
  let kept := limiter.evict (limiter.cutoff now) hits
  let others := kept.filter fun entry => entry.1 ≠ ip
  let calls := ((kept.lookup ip).getD []).dropWhile fun time => time < limiter.cutoff now
  if limiter.limit ≤ calls.length then (false, others ++ [(ip, calls)])
  else (true, others ++ [(ip, calls ++ [now])])

/-- A call, with the time the clock shows. -/
structure Call where
  now : ℚ
  ip : Text

/-- The map after some calls, and which of them were allowed. -/
def run : List Call → Hits → List Call × Hits
  | [], hits => ([], hits)
  | call :: calls, hits =>
    let (allowed, after) := limiter.allow call.now call.ip hits
    let (accepted, final) := run calls after
    (if allowed then call :: accepted else accepted, final)

/-- A call at this time finds room: fewer addresses have recent calls than the map may
hold. -/
def HasRoom (now : ℚ) (hits : Hits) : Prop :=
  (unexpired (limiter.cutoff now) hits).length < limiter.maxKeys

/-- Every call of a run finds room. -/
def AllFindRoom : List Call → Hits → Prop
  | [], _ => True
  | call :: calls, hits => limiter.HasRoom call.now hits ∧
      AllFindRoom calls (limiter.allow call.now call.ip hits).2

instance (now : ℚ) (hits : Hits) : Decidable (limiter.HasRoom now hits) :=
  inferInstanceAs (Decidable (_ < _))

instance decidableAllFindRoom : (calls : List Call) → (hits : Hits) →
    Decidable (limiter.AllFindRoom calls hits)
  | [], _ => .isTrue trivial
  | call :: calls, hits =>
    have := decidableAllFindRoom calls (limiter.allow call.now call.ip hits).2
    inferInstanceAs (Decidable (_ ∧ _))

/-- The allowed calls of an address in the window that starts at a time. -/
def inWindow (ip : Text) (start : ℚ) (accepted : List Call) : List Call :=
  accepted.filter fun call =>
    call.ip = ip ∧ start ≤ call.now ∧ call.now ≤ start + limiter.windowSeconds

end IpRateLimiter

/-! ## The size of the map -/

variable {limiter : IpRateLimiter}

theorem length_evict_lt (cutoff : ℚ) (hits : Hits) :
    (limiter.evict cutoff hits).length < limiter.maxKeys := by
  have positive := limiter.maxKeys_pos
  rw [IpRateLimiter.evict, List.length_drop]
  omega

theorem length_allow_le (now : ℚ) (ip : Text) (hits : Hits) :
    (limiter.allow now ip hits).2.length ≤ limiter.maxKeys := by
  have room : (limiter.evict (limiter.cutoff now) hits).length < limiter.maxKeys :=
    length_evict_lt (limiter.cutoff now) hits
  have others := List.length_filter_le (fun entry : Text × List ℚ => entry.1 ≠ ip)
    (limiter.evict (limiter.cutoff now) hits)
  unfold IpRateLimiter.allow
  dsimp only
  split <;> simp only [List.length_append, List.length_singleton] <;> omega

/-- **Bounded memory.** The map never holds more addresses than it may. -/
theorem length_run_le (calls : List IpRateLimiter.Call) {hits : Hits}
    (small : hits.length ≤ limiter.maxKeys) :
    (limiter.run calls hits).2.length ≤ limiter.maxKeys := by
  induction calls generalizing hits with
  | nil => exact small
  | cons call calls ih => exact ih (length_allow_le call.now call.ip hits)

/-- **Forgetting.** A call forgets no address with recent calls exactly if it finds room. -/
theorem forgets_none_iff (now : ℚ) (hits : Hits) :
    limiter.evict (limiter.cutoff now) hits = unexpired (limiter.cutoff now) hits ↔
      limiter.HasRoom now hits := by
  unfold IpRateLimiter.evict IpRateLimiter.HasRoom
  dsimp only
  constructor
  · intro same
    have lengths := congrArg List.length same
    rw [List.length_drop] at lengths
    have positive := limiter.maxKeys_pos
    omega
  · intro room
    rw [show (unexpired (limiter.cutoff now) hits).length + 1 - limiter.maxKeys = 0 by omega,
      List.drop_zero]

/-! ## Few addresses -/

theorem keys_allow (now : ℚ) (ip : Text) (hits : Hits) :
    (limiter.allow now ip hits).2.map Prod.fst =
      ((limiter.evict (limiter.cutoff now) hits).filter fun entry => entry.1 ≠ ip).map Prod.fst ++
        [ip] := by
  unfold IpRateLimiter.allow
  dsimp only
  split <;> rw [List.map_append, List.map_singleton]

theorem evict_sublist (cutoff : ℚ) (hits : Hits) : (limiter.evict cutoff hits).Sublist hits :=
  (List.drop_sublist _ _).trans List.filter_sublist

/-- A call looks its own address up, and forgets others. -/
theorem keys_allow_subset (now : ℚ) (ip : Text) (hits : Hits) :
    ∀ key ∈ (limiter.allow now ip hits).2.map Prod.fst, key = ip ∨ key ∈ hits.map Prod.fst := by
  intro key member
  rw [keys_allow] at member
  rcases List.mem_append.mp member with old | own
  · exact .inr (((List.filter_sublist.trans (evict_sublist _ hits)).map Prod.fst).subset old)
  · exact .inl (List.mem_singleton.mp own)

theorem nodup_allow (now : ℚ) (ip : Text) {hits : Hits} (distinct : (hits.map Prod.fst).Nodup) :
    ((limiter.allow now ip hits).2.map Prod.fst).Nodup := by
  rw [keys_allow, List.nodup_append]
  refine ⟨distinct.sublist ((List.filter_sublist.trans (evict_sublist _ hits)).map Prod.fst),
    List.nodup_singleton ip, ?_⟩
  rintro key member other own rfl
  obtain ⟨entry, kept, rfl⟩ := List.mem_map.mp member
  exact of_decide_eq_true (List.mem_filter.mp kept).2 (List.mem_singleton.mp own)

/-- With fewer addresses than the map may hold, every call finds room. -/
theorem allFindRoom_of_few (calls : List IpRateLimiter.Call) {hits : Hits}
    (distinct : (hits.map Prod.fst).Nodup)
    (few : (hits.map Prod.fst ++ calls.map IpRateLimiter.Call.ip).toFinset.card <
      limiter.maxKeys) : limiter.AllFindRoom calls hits := by
  induction calls generalizing hits with
  | nil => trivial
  | cons call calls ih =>
    refine ⟨?_, ih (nodup_allow call.now call.ip distinct) ?_⟩
    · have tracked : hits.length ≤
          (hits.map Prod.fst ++ (call :: calls).map IpRateLimiter.Call.ip).toFinset.card := by
        rw [← List.length_map Prod.fst, ← List.toFinset_card_of_nodup distinct, List.toFinset_append]
        exact Finset.card_le_card Finset.subset_union_left
      exact (List.length_filter_le _ hits).trans_lt (tracked.trans_lt few)
    · -- the addresses of the map are old ones and that of the call
      refine (Finset.card_le_card fun key member => ?_).trans_lt few
      rw [List.mem_toFinset, List.mem_append] at member ⊢
      rcases member with tracked | called
      · rcases keys_allow_subset call.now call.ip hits key tracked with rfl | old
        · exact .inr List.mem_cons_self
        · exact .inl old
      · exact .inr (List.mem_cons_of_mem _ called)

/-! ## What the map remembers -/

/-- The times of the allowed calls of an address. -/
def timesOf (ip : Text) (accepted : List IpRateLimiter.Call) : List ℚ :=
  (accepted.filter fun call => call.ip = ip).map IpRateLimiter.Call.now

/-- The map remembers the allowed calls, except those before a time. -/
structure Remembers (before : ℚ) (accepted : List IpRateLimiter.Call) (hits : Hits) : Prop where
  distinct : (hits.map Prod.fst).Nodup
  kept : ∀ entry ∈ hits, ∃ dropped, timesOf entry.1 accepted = dropped ++ entry.2 ∧
    ∀ time ∈ dropped, time < before
  gone : ∀ ip, ip ∉ hits.map Prod.fst → ∀ time ∈ timesOf ip accepted, time < before
  ordered : ∀ ip, (timesOf ip accepted).Pairwise (· ≤ ·)

theorem remembers_initial (before : ℚ) : Remembers before [] [] where
  distinct := List.nodup_nil
  kept _ member := absurd member List.not_mem_nil
  gone _ _ _ member := absurd member List.not_mem_nil
  ordered _ := .nil

section Step

variable {before : ℚ} {accepted : List IpRateLimiter.Call} {hits : Hits}

theorem lt_of_isExpired {cutoff : ℚ} {calls : List ℚ} (ordered : calls.Pairwise (· ≤ ·))
    (expired : isExpired cutoff calls = true) : ∀ time ∈ calls, time < cutoff := by
  rcases List.eq_nil_or_concat calls with rfl | ⟨earlier, last, rfl⟩
  · exact fun _ member => absurd member List.not_mem_nil
  · rw [List.concat_eq_append] at *
    simp only [isExpired, List.getLast?_append, List.getLast?_singleton, Option.some_or,
      decide_eq_true_eq] at expired
    intro time member
    rcases List.mem_append.mp member with inside | isLast
    · exact (List.pairwise_append.mp ordered).2.2 time inside last (List.mem_singleton_self _)
        |>.trans_lt expired
    · rwa [List.mem_singleton.mp isLast]

/-- Dropping the expired addresses drops only what lies before the cutoff. -/
theorem Remembers.expire (known : Remembers before accepted hits) {cutoff : ℚ}
    (later : before ≤ cutoff) : Remembers cutoff accepted (unexpired cutoff hits) where
  distinct := known.distinct.sublist (List.filter_sublist.map _)
  kept entry member := by
    obtain ⟨dropped, split, old⟩ := known.kept entry (List.mem_of_mem_filter member)
    exact ⟨dropped, split, fun time inside => (old time inside).trans_le later⟩
  gone ip absent time member := by
    by_cases tracked : ip ∈ hits.map Prod.fst
    · obtain ⟨entry, inside, rfl⟩ := List.mem_map.mp tracked
      obtain ⟨dropped, split, old⟩ := known.kept entry inside
      have expired : isExpired cutoff entry.2 = true := by
        by_contra fresh
        exact absent (List.mem_map_of_mem (List.mem_filter.mpr ⟨inside, by simpa using fresh⟩))
      have ordered := known.ordered entry.1
      rw [split] at ordered member
      rcases List.mem_append.mp member with first | second
      · exact (old time first).trans_le later
      · exact lt_of_isExpired (List.pairwise_append.mp ordered).2.1 expired time second
    · exact (known.gone ip tracked time member).trans_le later
  ordered := known.ordered

theorem Remembers.lookup (known : Remembers before accepted hits) (ip : Text) :
    ∃ dropped, timesOf ip accepted = dropped ++ (hits.lookup ip).getD [] ∧
      ∀ time ∈ dropped, time < before := by
  cases found : hits.lookup ip with
  | none =>
    refine ⟨timesOf ip accepted, (List.append_nil _).symm, known.gone ip fun tracked => ?_⟩
    obtain ⟨entry, inside, rfl⟩ := List.mem_map.mp tracked
    have other := List.lookup_eq_none_iff.mp found entry inside
    simp at other
  | some calls =>
    obtain ⟨earlier, others, rfl, -⟩ := List.lookup_eq_some_iff.mp found
    exact known.kept (ip, calls) (List.mem_append_right _ List.mem_cons_self)

/-- The calls that count are the allowed calls since the cutoff. -/
theorem Remembers.recent (known : Remembers before accepted hits) (ip : Text) :
    ((hits.lookup ip).getD []).dropWhile (fun time => time < before) =
      (timesOf ip accepted).filter fun time => before ≤ time := by
  obtain ⟨dropped, split, old⟩ := known.lookup ip
  have ordered := known.ordered ip
  rw [split] at ordered ⊢
  rw [List.filter_append, List.filter_eq_nil_iff.mpr (fun time member => by
    simpa using old time member), List.nil_append]
  exact dropWhile_eq_filter (List.pairwise_append.mp ordered).2.1
where
  dropWhile_eq_filter {calls : List ℚ} (ordered : calls.Pairwise (· ≤ ·)) :
      calls.dropWhile (fun time => time < before) = calls.filter fun time => before ≤ time := by
    induction calls with
    | nil => rfl
    | cons time calls ih =>
      obtain ⟨least, rest⟩ := List.pairwise_cons.mp ordered
      by_cases early : time < before
      · rw [List.dropWhile_cons_of_pos (by simpa using early), ih rest,
          List.filter_cons_of_neg (by simpa using early)]
      · rw [List.dropWhile_cons_of_neg (by simpa using early), eq_comm, List.filter_eq_self]
        intro other member
        rcases List.mem_cons.mp member with rfl | inside
        · simpa using early
        · simpa using (not_lt.mp early).trans (least other inside)

theorem timesOf_append (ip : Text) (accepted others : List IpRateLimiter.Call) :
    timesOf ip (accepted ++ others) = timesOf ip accepted ++ timesOf ip others := by
  rw [timesOf, List.filter_append, List.map_append]
  rfl

/-- The calls of one address are replaced. -/
theorem Remembers.put (known : Remembers before accepted hits) {accepted' : List IpRateLimiter.Call}
    {ip : Text} {calls : List ℚ}
    (own : ∃ dropped, timesOf ip accepted' = dropped ++ calls ∧ ∀ time ∈ dropped, time < before)
    (others : ∀ other, other ≠ ip → timesOf other accepted' = timesOf other accepted)
    (ordered : (timesOf ip accepted').Pairwise (· ≤ ·)) :
    Remembers before accepted' ((hits.filter fun entry => entry.1 ≠ ip) ++ [(ip, calls)]) where
  distinct := by
    rw [List.map_append, List.nodup_append]
    refine ⟨known.distinct.sublist (List.filter_sublist.map _), List.nodup_singleton _, ?_⟩
    rintro other member ip' isIp rfl
    obtain ⟨entry, inside, rfl⟩ := List.mem_map.mp member
    have differs : entry.1 ≠ ip := by simpa using (List.mem_filter.mp inside).2
    exact differs (List.mem_singleton.mp isIp)
  kept entry member := by
    rcases List.mem_append.mp member with inside | isOwn
    · have differs : entry.1 ≠ ip := by simpa using (List.mem_filter.mp inside).2
      rw [others entry.1 differs]
      exact known.kept entry (List.mem_of_mem_filter inside)
    · rw [List.mem_singleton.mp isOwn]
      exact own
  gone other absent := by
    have differs : other ≠ ip := by
      rintro rfl
      exact absent (List.mem_map.mpr ⟨(other, calls), List.mem_append_right _ (by simp), rfl⟩)
    rw [others other differs]
    refine known.gone other fun tracked => absent ?_
    obtain ⟨entry, inside, rfl⟩ := List.mem_map.mp tracked
    exact List.mem_map_of_mem
      (List.mem_append_left _ (List.mem_filter.mpr ⟨inside, by simpa using differs⟩))
  ordered other := by
    by_cases same : other = ip
    · rw [same]
      exact ordered
    · rw [others other same]
      exact known.ordered other

/-- **One call.** Where it finds room, a call keeps what the map remembers; and it is
allowed only if fewer calls than the limit were allowed since its cutoff. -/
theorem Remembers.call (known : Remembers before accepted hits) {call : IpRateLimiter.Call}
    (later : before ≤ limiter.cutoff call.now) (room : limiter.HasRoom call.now hits)
    (latest : ∀ earlier ∈ accepted, earlier.now ≤ call.now) :
    ((limiter.allow call.now call.ip hits).1 = true →
      Remembers (limiter.cutoff call.now) (accepted ++ [call])
        (limiter.allow call.now call.ip hits).2 ∧
      ((timesOf call.ip accepted).filter fun time => limiter.cutoff call.now ≤ time).length <
        limiter.limit) ∧
    ((limiter.allow call.now call.ip hits).1 = false →
      Remembers (limiter.cutoff call.now) accepted (limiter.allow call.now call.ip hits).2) := by
  have fresh := known.expire later
  have recent := fresh.recent call.ip
  obtain ⟨dropped, split, old⟩ := fresh.lookup call.ip
  -- what expired is a front part of what was allowed
  have own : ∃ dropped, timesOf call.ip accepted = dropped ++
      (((unexpired (limiter.cutoff call.now) hits).lookup call.ip).getD []).dropWhile
        (fun time => time < limiter.cutoff call.now) ∧
      ∀ time ∈ dropped, time < limiter.cutoff call.now := by
    refine ⟨dropped ++ (((unexpired (limiter.cutoff call.now) hits).lookup call.ip).getD
      []).takeWhile (fun time => time < limiter.cutoff call.now), ?_, fun time member => ?_⟩
    · rw [List.append_assoc, List.takeWhile_append_dropWhile]
      exact split
    · rcases List.mem_append.mp member with first | second
      · exact old time first
      · simpa using List.mem_takeWhile_imp second
  unfold IpRateLimiter.allow
  dsimp only
  -- with room nothing is forgotten beyond that
  rw [(forgets_none_iff call.now hits).mpr room]
  split
  case isTrue full =>
    refine ⟨fun impossible => (nomatch impossible), fun _ => ?_⟩
    exact fresh.put own (fun _ _ => rfl) (fresh.ordered call.ip)
  case isFalse short =>
    refine ⟨fun _ => ⟨?_, ?_⟩, fun impossible => nomatch impossible⟩
    · -- an allowed call is put behind the others
      have single : timesOf call.ip [call] = [call.now] := by simp [timesOf]
      refine fresh.put ?_ (fun other differs => ?_) ?_
      · obtain ⟨dropped, split, old⟩ := own
        exact ⟨dropped, by rw [timesOf_append, split, single, List.append_assoc], old⟩
      · rw [timesOf_append, show timesOf other [call] = [] by simp [timesOf, Ne.symm differs],
          List.append_nil]
      · rw [timesOf_append, single, List.pairwise_append]
        refine ⟨fresh.ordered call.ip, List.pairwise_singleton _ _, fun time member now isNow => ?_⟩
        obtain ⟨earlier, inside, rfl⟩ := List.mem_map.mp member
        rw [List.mem_singleton.mp isNow]
        exact latest earlier (List.mem_of_mem_filter inside)
    · rw [← recent]
      omega

end Step

/-! ## Runs -/

/-- In every window no more calls of an address were allowed than the limit. -/
def IpRateLimiter.Limited (limiter : IpRateLimiter) (accepted : List IpRateLimiter.Call) : Prop :=
  ∀ ip start, (limiter.inWindow ip start accepted).length ≤ limiter.limit

theorem length_inWindow_le_of_recent {accepted : List IpRateLimiter.Call}
    {call : IpRateLimiter.Call} {start : ℚ} (reaches : call.now ≤ start + limiter.windowSeconds) :
    (limiter.inWindow call.ip start accepted).length ≤
      ((timesOf call.ip accepted).filter fun time => limiter.cutoff call.now ≤ time).length := by
  rw [timesOf, List.filter_map, List.length_map, List.filter_filter]
  refine (List.monotone_filter_right _ fun earlier inside => ?_).length_le
  simp only [decide_eq_true_eq, Function.comp_apply, Bool.and_eq_true] at inside ⊢
  obtain ⟨same, from_, -⟩ := inside
  refine ⟨?_, same⟩
  unfold IpRateLimiter.cutoff
  linarith

theorem limited_append {accepted : List IpRateLimiter.Call} {call : IpRateLimiter.Call}
    (limited : limiter.Limited accepted)
    (few : ((timesOf call.ip accepted).filter fun time =>
      limiter.cutoff call.now ≤ time).length < limiter.limit) :
    limiter.Limited (accepted ++ [call]) := by
  intro ip start
  rw [IpRateLimiter.inWindow, List.filter_append, List.length_append]
  by_cases inside : call.ip = ip ∧ start ≤ call.now ∧ call.now ≤ start + limiter.windowSeconds
  · rw [List.filter_cons_of_pos (by simpa using inside), List.filter_nil, List.length_singleton]
    obtain ⟨rfl, -, reaches⟩ := inside
    exact (length_inWindow_le_of_recent reaches).trans_lt few
  · rw [List.filter_cons_of_neg (by simpa using inside), List.filter_nil, List.length_nil]
    exact limited ip start

theorem limited_run (calls : List IpRateLimiter.Call) {before : ℚ}
    {accepted : List IpRateLimiter.Call} {hits : Hits} (known : Remembers before accepted hits)
    (ordered : calls.Pairwise fun a b => a.now ≤ b.now)
    (later : ∀ call ∈ calls, before ≤ limiter.cutoff call.now)
    (latest : ∀ call ∈ calls, ∀ earlier ∈ accepted, earlier.now ≤ call.now)
    (room : limiter.AllFindRoom calls hits) (limited : limiter.Limited accepted) :
    limiter.Limited (accepted ++ (limiter.run calls hits).1) := by
  induction calls generalizing before accepted hits with
  | nil => simpa [IpRateLimiter.run] using limited
  | cons call calls ih =>
    obtain ⟨first, rest⟩ := List.pairwise_cons.mp ordered
    obtain ⟨here, after⟩ := room
    obtain ⟨allowed, refused⟩ := known.call (later call List.mem_cons_self) here
      (latest call List.mem_cons_self)
    have next : ∀ other ∈ calls, limiter.cutoff call.now ≤ limiter.cutoff other.now :=
      fun other member => sub_le_sub_right (first other member) _
    rw [IpRateLimiter.run]
    dsimp only
    cases answer : (limiter.allow call.now call.ip hits).1 with
    | true =>
      obtain ⟨remembered, few⟩ := allowed answer
      have whole := ih remembered rest next (fun other member earlier inside => by
        rcases List.mem_append.mp inside with old | isCall
        · exact latest other (List.mem_cons_of_mem _ member) earlier old
        · rw [List.mem_singleton.mp isCall]
          exact first other member) after (limited_append limited few)
      simpa using whole
    | false =>
      have whole := ih (refused answer) rest next
        (fun other member => latest other (List.mem_cons_of_mem _ member)) after limited
      simpa using whole

/-- **The limiter.** In every run from the empty map: the map never holds more addresses
than it may, and where every call finds room, as with fewer addresses than that, no
address is allowed more calls than the limit in any window. Room is exactly what keeps a
call from forgetting an address with recent calls. -/
theorem tracked_and_limited (limiter : IpRateLimiter) (calls : List IpRateLimiter.Call)
    (ordered : calls.Pairwise fun a b => a.now ≤ b.now) :
    (limiter.run calls []).2.length ≤ limiter.maxKeys ∧
    (limiter.AllFindRoom calls [] ∨
        (calls.map IpRateLimiter.Call.ip).dedup.length < limiter.maxKeys → ∀ ip start,
      (limiter.inWindow ip start (limiter.run calls []).1).length ≤ limiter.limit) ∧
    ∀ now hits, limiter.evict (limiter.cutoff now) hits = unexpired (limiter.cutoff now) hits ↔
      limiter.HasRoom now hits := by
  refine ⟨length_run_le calls (Nat.zero_le _), fun condition => ?_, fun now hits =>
    forgets_none_iff now hits⟩
  have room : limiter.AllFindRoom calls [] := by
    rcases condition with room | few
    · exact room
    · refine allFindRoom_of_few calls List.nodup_nil ?_
      rwa [List.map_nil, List.nil_append, List.card_toFinset]
  have empty : limiter.Limited [] := fun _ _ => Nat.zero_le _
  cases calls with
  | nil => exact empty
  | cons call rest =>
    have known := remembers_initial (limiter.cutoff call.now)
    have later : ∀ other ∈ call :: rest, limiter.cutoff call.now ≤ limiter.cutoff other.now := by
      intro other member
      rcases List.mem_cons.mp member with rfl | inside
      · exact le_refl _
      · exact sub_le_sub_right ((List.pairwise_cons.mp ordered).1 other inside) _
    exact limited_run (call :: rest) known ordered later
      (fun _ _ _ none_ => absurd none_ List.not_mem_nil) room empty

namespace SampleLimiter

/-- One call of an address each minute. -/
def oneAMinute (maxKeys : ℕ) (positive : 0 < maxKeys) : IpRateLimiter :=
  ⟨1, 60, maxKeys, by decide, by decide, positive⟩

/-- One address calls twice. -/
def twice : List IpRateLimiter.Call := [⟨0, "1.1.1.1"⟩, ⟨1, "1.1.1.1"⟩]

theorem tracked_and_limited_twice :
    ((oneAMinute 2 (by decide)).inWindow "1.1.1.1" 0
      ((oneAMinute 2 (by decide)).run twice []).1).length ≤ 1 :=
  (tracked_and_limited (oneAMinute 2 (by decide)) twice (by decide +kernel)).2.1
    (.inl (by decide +kernel)) "1.1.1.1" 0

/-- A map that may hold one address forgets it when it calls again. -/
theorem not_limited_when_full : ¬ ∀ (limiter : IpRateLimiter) (calls : List IpRateLimiter.Call),
    calls.Pairwise (fun a b => a.now ≤ b.now) →
    (calls.map IpRateLimiter.Call.ip).dedup.length ≤ limiter.maxKeys →
    ∀ ip start, (limiter.inWindow ip start (limiter.run calls []).1).length ≤ limiter.limit := by
  intro claim
  have within := claim (oneAMinute 1 (by decide)) twice (by decide +kernel) (by decide +kernel)
    "1.1.1.1" 0
  have both : ((oneAMinute 1 (by decide)).inWindow "1.1.1.1" 0
      ((oneAMinute 1 (by decide)).run twice []).1).length = 2 := by decide +kernel
  rw [both] at within
  exact absurd within (by decide)

end SampleLimiter

end Cathedral.Enrollment
