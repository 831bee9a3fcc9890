import CathedralCompute.Semantics.Table
import CathedralCompute.Semantics.Transaction

/-!
# Programs that take turns

A program does its work in atomic steps on a shared state. Each step reads an
input from outside (a clock, the answer of a peer), commits a new state and goes
on with what it read. Many programs run over one state: at every moment any of
them takes its next step, or the state changes from outside. A program that is
never chosen again has crashed.

A process keeps the states at which its program took steps. What one program
sees of the others is a relation between those states, and a program is
understood through the runs it can make when the others keep to that relation.

## Main definitions

* `Program`, `Program.transact`, `Program.observe` — programs and their steps
* `Program.Runs` — the runs of one program among others that keep to a relation
* `System`, `System.step` — processes over one state
* `Program.Guarantees` — what every step of a program does to the state

## Main results

* `runs_bind_ok`, `runs_bind_error` — the run of a sequence, read backwards
* `Viewed.step` — in every run of a system, each process makes a run of its own
  program in which the others keep to what they guarantee
-/

set_option autoImplicit false

namespace Semantics

/-- A program over the state `σ` with inputs `ι` that fails with `ε` or returns
an `α`. -/
inductive Program (σ ι ε α : Type) : Type where
  | done (outcome : Except ε α)
  | step (commit : ι → σ → σ) (next : ι → σ → Program σ ι ε α)

namespace Program

variable {σ ι ε α β : Type}

/-! ## Building programs -/

def bind : Program σ ι ε α → (α → Program σ ι ε β) → Program σ ι ε β
  | done (.ok value), rest => rest value
  | done (.error failure), _ => done (.error failure)
  | step commit next, rest => step commit fun input s => (next input s).bind rest

instance : Monad (Program σ ι ε) where
  pure value := done (.ok value)
  bind := bind

/-- A computation that does not touch the state. -/
def lift (outcome : Except ε α) : Program σ ι ε α := done outcome

/-- A transaction, committed or rolled back. -/
def transact (transaction : ι → σ → Except ε (α × σ)) : Program σ ι ε α :=
  step (fun input s => settle s ((transaction input s).map Prod.snd))
    fun input s => done ((transaction input s).map Prod.fst)

/-- A step that only reads. -/
def observe (read : ι → σ → Except ε α) : Program σ ι ε α :=
  step (fun _ s => s) fun input s => done (read input s)

/-- Sequences of sequences. -/
theorem bind_assoc {γ : Type} (first : Program σ ι ε α) (second : α → Program σ ι ε β)
    (third : β → Program σ ι ε γ) :
    (first >>= second) >>= third = first >>= fun value => second value >>= third := by
  change (first.bind second).bind third = first.bind fun value => (second value).bind third
  induction first with
  | done outcome => cases outcome <;> rfl
  | step commit next ih =>
    simp only [bind]
    exact congrArg (step commit) (funext fun input => funext fun s => ih input s)

/-! ## Runs of one program -/

section Runs

variable {R : σ → σ → Prop}

/-- A run of a program from a history of states to what is left of it and a longer
history, latest state first. Between two steps the others do what `R` allows. -/
inductive Runs (R : σ → σ → Prop) :
    Program σ ι ε α → List σ → Program σ ι ε α → List σ → Prop
  | refl {program : Program σ ι ε α} {seen : List σ} : Runs R program seen program seen
  | step {commit : ι → σ → σ} {next : ι → σ → Program σ ι ε α} {seen seen' : List σ} {input : ι}
      {s : σ} {rest : Program σ ι ε α} (others : ∀ last ∈ seen.head?, R last s)
      (later : Runs R (next input s) (commit input s :: s :: seen) rest seen') :
      Runs R (.step commit next) seen rest seen'

theorem Runs.trans {first second third : Program σ ι ε α} {h₁ h₂ h₃ : List σ}
    (one : Runs R first h₁ second h₂) (two : Runs R second h₂ third h₃) :
    Runs R first h₁ third h₃ := by
  induction one with
  | refl => exact two
  | step others _ ih => exact .step others (ih two)

/-- What a run saw before it is still in its history. -/
theorem Runs.suffix {program rest : Program σ ι ε α} {seen seen' : List σ}
    (runs : Runs R program seen rest seen') : seen <:+ seen' := by
  induction runs with
  | refl => exact List.suffix_rfl
  | step _ _ ih => exact ((List.suffix_cons _ _).trans (List.suffix_cons _ _)).trans ih

theorem runs_done {outcome : Except ε α} {rest : Program σ ι ε α} {seen seen' : List σ}
    (runs : Runs R (.done outcome) seen rest seen') : rest = .done outcome ∧ seen' = seen := by
  cases runs
  exact ⟨rfl, rfl⟩

/-- A finished sequence ran its first part to a value and then the rest, or failed
in its first part. -/
theorem runs_bind {first : Program σ ι ε α} {rest : α → Program σ ι ε β} {seen seen' : List σ}
    {outcome : Except ε β} (runs : Runs R (first >>= rest) seen (.done outcome) seen') :
    (∃ value middle, Runs R first seen (.done (.ok value)) middle ∧
      Runs R (rest value) middle (.done outcome) seen') ∨
    ∃ failure, Runs R first seen (.done (.error failure)) seen' ∧ outcome = .error failure := by
  change Runs R (first.bind rest) seen (.done outcome) seen' at runs
  induction first generalizing seen with
  | done result =>
    cases result with
    | ok value => exact .inl ⟨value, seen, .refl, runs⟩
    | error failure =>
      obtain ⟨same, rfl⟩ := runs_done runs
      cases same
      exact .inr ⟨failure, .refl, rfl⟩
  | step commit next ih =>
    rw [bind] at runs
    cases runs with
    | step others later =>
      rcases ih _ _ later with ⟨value, middle, one, two⟩ | ⟨failure, one, same⟩
      · exact .inl ⟨value, middle, .step others one, two⟩
      · exact .inr ⟨failure, .step others one, same⟩

/-- A successful sequence, read backwards. -/
theorem runs_bind_ok {first : Program σ ι ε α} {rest : α → Program σ ι ε β} {seen seen' : List σ}
    {value : β} (runs : Runs R (first >>= rest) seen (.done (.ok value)) seen') :
    ∃ a middle, Runs R first seen (.done (.ok a)) middle ∧
      Runs R (rest a) middle (.done (.ok value)) seen' := by
  rcases runs_bind runs with found | ⟨failure, -, impossible⟩
  · exact found
  · cases impossible

theorem runs_pure {value result : α} {seen seen' : List σ}
    (runs : Runs R (pure value : Program σ ι ε α) seen (.done (.ok result)) seen') :
    result = value ∧ seen' = seen := by
  obtain ⟨same, rfl⟩ := runs_done runs
  cases same
  exact ⟨rfl, rfl⟩

theorem runs_lift {outcome : Except ε α} {value : α} {seen seen' : List σ}
    (runs : Runs R (lift outcome : Program σ ι ε α) seen (.done (.ok value)) seen') :
    outcome = .ok value ∧ seen' = seen := by
  obtain ⟨same, rfl⟩ := runs_done runs
  cases same
  exact ⟨rfl, rfl⟩

/-- A committed transaction: the state it found and the state it left. -/
theorem runs_transact {transaction : ι → σ → Except ε (α × σ)} {value : α} {seen seen' : List σ}
    (runs : Runs R (transact transaction) seen (.done (.ok value)) seen') :
    ∃ input s s', (∀ last ∈ seen.head?, R last s) ∧ transaction input s = .ok (value, s') ∧
      seen' = s' :: s :: seen := by
  cases runs with
  | @step _ _ _ _ input s _ others later =>
    obtain ⟨same, rfl⟩ := runs_done later
    obtain ⟨⟨_, s'⟩, committed, rfl⟩ := map_eq_ok.mp (done.inj same).symm
    refine ⟨input, s, s', others, committed, ?_⟩
    simp only [committed]
    rfl

end Runs

/-! ## Given turns -/

/-- A turn of a program: what others did before it, and what its step reads. -/
structure Turn (σ ι : Type) where
  others : σ → σ
  input : ι

/-- What the turns leave of a program, and the state they end in. -/
def play : Program σ ι ε α → List (Turn σ ι) → σ → Program σ ι ε α × σ
  | step commit next, turn :: turns, s =>
    (next turn.input (turn.others s)).play turns (commit turn.input (turn.others s))
  | program, _, s => (program, s)

theorem play_done (outcome : Except ε α) (turns : List (Turn σ ι)) (s : σ) :
    (done outcome : Program σ ι ε α).play turns s = (done outcome, s) := by
  cases turns <;> rfl

/-- A computation that does not touch the state takes no turn. -/
theorem play_lift (outcome : Except ε α) (rest : α → Program σ ι ε β) (turns : List (Turn σ ι))
    (s : σ) : (lift outcome >>= rest).play turns s =
      match outcome with
      | .ok value => (rest value).play turns s
      | .error failure => (done (.error failure), s) := by
  cases outcome with
  | ok value => rfl
  | error failure => exact play_done _ turns s

/-- A turn for a reading. -/
theorem play_observe (read : ι → σ → Except ε α) (rest : α → Program σ ι ε β)
    (turn : Turn σ ι) (turns : List (Turn σ ι)) (s : σ) :
    (observe read >>= rest).play (turn :: turns) s =
      match read turn.input (turn.others s) with
      | .ok value => (rest value).play turns (turn.others s)
      | .error failure => (done (.error failure), turn.others s) := by
  change ((done (read turn.input (turn.others s))).bind rest).play turns (turn.others s) = _
  cases read turn.input (turn.others s) with
  | ok value => rfl
  | error failure => exact play_done _ turns _

/-- A turn for a transaction. -/
theorem play_transact (transaction : ι → σ → Except ε (α × σ)) (rest : α → Program σ ι ε β)
    (turn : Turn σ ι) (turns : List (Turn σ ι)) (s : σ) :
    (transact transaction >>= rest).play (turn :: turns) s =
      match transaction turn.input (turn.others s) with
      | .ok (value, s') => (rest value).play turns s'
      | .error failure => (done (.error failure), turn.others s) := by
  change ((done ((transaction turn.input (turn.others s)).map Prod.fst)).bind rest).play turns
    (settle (turn.others s) ((transaction turn.input (turn.others s)).map Prod.snd)) = _
  cases transaction turn.input (turn.others s) with
  | ok outcome => rfl
  | error failure => exact play_done _ turns _

/-! ## What the steps of a program do -/

/-- Every step the program can take, from any state with the invariant, keeps to
`G`. -/
def Guarantees (I : σ → Prop) (G : σ → σ → Prop) : Program σ ι ε α → Prop
  | done _ => True
  | step commit next => ∀ input s, I s → G s (commit input s) ∧ (next input s).Guarantees I G

section Guarantees

variable {I : σ → Prop} {G : σ → σ → Prop}

theorem guarantees_lift {outcome : Except ε α} :
    (lift outcome : Program σ ι ε α).Guarantees I G := trivial

theorem guarantees_pure {value : α} : (pure value : Program σ ι ε α).Guarantees I G := trivial

theorem guarantees_bind {first : Program σ ι ε α} {rest : α → Program σ ι ε β}
    (one : first.Guarantees I G) (two : ∀ value, (rest value).Guarantees I G) :
    (first >>= rest).Guarantees I G := by
  change (first.bind rest).Guarantees I G
  induction first with
  | done outcome =>
    cases outcome with
    | ok value => exact two value
    | error failure => trivial
  | step commit next ih =>
    exact fun input s valid => ⟨(one input s valid).1, ih input s (one input s valid).2⟩

/-- A transaction keeps to a reflexive relation when its commits do. -/
theorem guarantees_transact {transaction : ι → σ → Except ε (α × σ)} (refl : ∀ s, I s → G s s)
    (commits : ∀ input s value s', I s → transaction input s = .ok (value, s') → G s s') :
    (transact transaction).Guarantees I G := by
  refine fun input s valid => ⟨settle_of_ok (refl s valid) fun s' committed => ?_, trivial⟩
  obtain ⟨⟨value, _⟩, done, rfl⟩ := map_eq_ok.mp committed
  exact commits input s value _ valid done

theorem guarantees_observe {read : ι → σ → Except ε α} (refl : ∀ s, I s → G s s) :
    (observe read).Guarantees I G :=
  fun _ s valid => ⟨refl s valid, trivial⟩

/-- A stronger invariant makes stronger guarantees. -/
theorem Guarantees.mono {program : Program σ ι ε α} {I' : σ → Prop} {G' : σ → σ → Prop}
    (guarantees : program.Guarantees I G) (stronger : ∀ s, I' s → I s)
    (weaker : ∀ s s', I' s → G s s' → G' s s') : program.Guarantees I' G' := by
  induction program with
  | done outcome => trivial
  | step commit next ih =>
    intro input s valid
    obtain ⟨kept, rest⟩ := guarantees input s (stronger s valid)
    exact ⟨weaker _ _ valid kept, ih input s rest⟩

end Guarantees

end Program

/-! ## Systems -/

/-- A process: its name, what it was called with, what is left of its program, and
the states it saw, the one it was started in last. -/
structure Process (κ χ σ ι ε α : Type) where
  name : κ
  call : χ
  code : Program σ ι ε α
  seen : List σ

/-- Processes over one state, each with a name of its own. -/
structure System (κ χ σ ι ε α : Type) where
  world : σ
  processes : Table (Process.name (κ := κ) (χ := χ) (σ := σ) (ι := ι) (ε := ε) (α := α))

/-- A move of a system. -/
inductive Move (κ χ ι ω : Type) where
  | spawn (name : κ) (call : χ)
  | advance (name : κ) (input : ι)
  | outside (change : ω)

section Systems

variable {κ χ σ ι ε α ω : Type}

/-- The process after its next step in a state. -/
def Process.next (input : ι) (s : σ) (process : Process κ χ σ ι ε α) : Process κ χ σ ι ε α :=
  match process.code with
  | .done _ => process
  | .step commit next =>
    { process with code := next input s, seen := commit input s :: s :: process.seen }

/-- The state after the next step of the process. -/
def Process.effect (input : ι) (s : σ) (process : Process κ χ σ ι ε α) : σ :=
  match process.code with
  | .done _ => s
  | .step commit _ => commit input s

theorem Process.name_next (input : ι) (s : σ) (process : Process κ χ σ ι ε α) :
    (process.next input s).name = process.name := by
  unfold next
  split <;> rfl

theorem Process.call_next (input : ι) (s : σ) (process : Process κ χ σ ι ε α) :
    (process.next input s).call = process.call := by
  unfold next
  split <;> rfl

namespace System

variable [DecidableEq κ]

/-- A system without processes. -/
def start (world : σ) : System κ χ σ ι ε α := ⟨world, .empty⟩

/-- Start a process, unless its name is taken. -/
def spawn (process : Process κ χ σ ι ε α) (system : System κ χ σ ι ε α) : System κ χ σ ι ε α :=
  { system with processes := (system.processes.insert process).getD system.processes }

/-- The next step of one process. -/
def advance (name : κ) (input : ι) (system : System κ χ σ ι ε α) : System κ χ σ ι ε α where
  world := ((system.processes.find? name).map (Process.effect input system.world)).getD system.world
  processes := system.processes.update (fun process => process.name = name)
    (Process.next input system.world) (Process.name_next input system.world)

/-- The system after a move. `program` is the program of a call, and `outside` what
a change from outside does. -/
def step (program : κ → χ → Program σ ι ε α) (outside : ω → σ → σ)
    (system : System κ χ σ ι ε α) : Move κ χ ι ω → System κ χ σ ι ε α
  | .spawn name call => system.spawn ⟨name, call, program name call, [system.world]⟩
  | .advance name input => system.advance name input
  | .outside change => { system with world := outside change system.world }

end System

/-! ## Views -/

/-- The rules of a system: an invariant `I`, and relations that the programs and the
changes from outside keep to where it holds: `K` by every step, `R name` by every
step of the others. -/
structure Ordered (program : κ → χ → Program σ ι ε α) (outside : ω → σ → σ) (I : σ → Prop)
    (K : σ → σ → Prop) (R : κ → σ → σ → Prop) : Prop where
  kept_refl : ∀ s, I s → K s s
  kept_trans : ∀ {a b c}, K a b → K b c → K a c
  refl : ∀ name s, I s → R name s s
  trans : ∀ name {a b c}, R name a b → R name b c → R name a c
  valid : ∀ name call, (program name call).Guarantees I fun _ s' => I s'
  keeps : ∀ name call, (program name call).Guarantees I K
  guards : ∀ name call other, other ≠ name → (program name call).Guarantees I (R other)
  outside_valid : ∀ change s, I s → I (outside change s)
  outside_keeps : ∀ change s, I s → K s (outside change s)
  outside_guards : ∀ change name s, I s → R name s (outside change s)

/-- What is known of a process in a world: it made a run of its program in which the
others kept to its relation, and still keep to it; what it saw is valid and behind
the world; and what is left of its program keeps to the rules. -/
structure Process.Viewed (program : κ → χ → Program σ ι ε α) (I : σ → Prop) (K : σ → σ → Prop)
    (R : κ → σ → σ → Prop) (world : σ) (process : Process κ χ σ ι ε α) : Prop where
  ran : ∃ first, (program process.name process.call).Runs (R process.name) [first] process.code
    process.seen
  current : ∀ last ∈ process.seen.head?, R process.name last world
  past : ∀ s ∈ process.seen, I s ∧ K s world
  valid : process.code.Guarantees I fun _ s' => I s'
  guarded : ∀ other, other ≠ process.name → process.code.Guarantees I (R other)
  steady : process.code.Guarantees I K

/-- The world of the system is valid and every process is viewed. -/
structure System.Viewed (program : κ → χ → Program σ ι ε α) (I : σ → Prop) (K : σ → σ → Prop)
    (R : κ → σ → σ → Prop) (system : System κ χ σ ι ε α) : Prop where
  valid : I system.world
  views : ∀ process ∈ system.processes.rows, process.Viewed program I K R system.world

section Views

variable {program : κ → χ → Program σ ι ε α} {outside : ω → σ → σ} {I : σ → Prop}
  {K : σ → σ → Prop} {R : κ → σ → σ → Prop} {process : Process κ χ σ ι ε α} {world world' : σ}

/-- A process that did not move stays viewed while the others keep to its relation. -/
theorem Process.Viewed.stay (viewed : process.Viewed program I K R world)
    (ordered : Ordered program outside I K R) (kept : K world world')
    (others : R process.name world world') : process.Viewed program I K R world' where
  ran := viewed.ran
  current last head := ordered.trans _ (viewed.current last head) others
  past s listed := ⟨(viewed.past s listed).1, ordered.kept_trans (viewed.past s listed).2 kept⟩
  valid := viewed.valid
  guarded := viewed.guarded
  steady := viewed.steady

/-- The next step of a process. -/
theorem Process.Viewed.next (viewed : process.Viewed program I K R world)
    (ordered : Ordered program outside I K R) (start : I world) (input : ι) :
    (process.next input world).Viewed program I K R (process.effect input world) ∧
      I (process.effect input world) ∧ K world (process.effect input world) ∧
      ∀ other, other ≠ process.name → R other world (process.effect input world) := by
  obtain ⟨⟨first, ran⟩, current, past, valid, guarded, steady⟩ := viewed
  unfold Process.next Process.effect
  split
  case h_1 outcome ended =>
    exact ⟨⟨⟨first, ran⟩, current, past, valid, guarded, steady⟩, start,
      ordered.kept_refl _ start, fun other _ => ordered.refl other _ start⟩
  case h_2 commit next code =>
    rw [code] at ran valid guarded steady
    have kept := steady input world start
    have good := valid input world start
    refine ⟨⟨⟨first, ran.trans (.step current .refl)⟩, ?_, ?_, good.2, ?_, kept.2⟩, good.1, kept.1,
      fun other different => (guarded other different input world start).1⟩
    · rintro _ ⟨⟩
      exact ordered.refl _ _ good.1
    · intro s listed
      rcases List.mem_cons.mp listed with rfl | listed
      · exact ⟨good.1, ordered.kept_refl _ good.1⟩
      · rcases List.mem_cons.mp listed with rfl | listed
        · exact ⟨start, kept.1⟩
        · exact ⟨(past s listed).1, ordered.kept_trans (past s listed).2 kept.1⟩
    · exact fun other different => (guarded other different input world start).2

/-- A process that was just started. -/
theorem Process.viewed_start (ordered : Ordered program outside I K R) (name : κ) (call : χ)
    (start : I world) :
    Process.Viewed program I K R world ⟨name, call, program name call, [world]⟩ where
  ran := ⟨world, .refl⟩
  current := by
    rintro _ ⟨⟩
    exact ordered.refl _ _ start
  past s listed := by
    rw [List.mem_singleton.mp listed]
    exact ⟨start, ordered.kept_refl _ start⟩
  valid := ordered.valid name call
  guarded other different := ordered.guards name call other different
  steady := ordered.keeps name call

variable [DecidableEq κ]

/-- What a move does: it keeps to `K`, the processes it does not move stay, and the
one it moves takes its next step. -/
theorem System.cases_step (program : κ → χ → Program σ ι ε α) (outside : ω → σ → σ)
    (system : System κ χ σ ι ε α) (move : Move κ χ ι ω) :
    (∃ name call, (system.step program outside move).world = system.world ∧
      ∀ process ∈ (system.step program outside move).processes.rows,
        process ∈ system.processes.rows ∨
          (∀ other ∈ system.processes.rows, other.name ≠ name) ∧
            process = ⟨name, call, program name call, [system.world]⟩) ∨
    (∃ input, ∃ mover ∈ system.processes.rows,
      (system.step program outside move).world = mover.effect input system.world ∧
      ∀ process ∈ (system.step program outside move).processes.rows,
        (process ∈ system.processes.rows ∧ process.name ≠ mover.name) ∨
          process = mover.next input system.world) ∨
    ((system.step program outside move).processes = system.processes ∧
      ((system.step program outside move).world = system.world ∨
        ∃ change, (system.step program outside move).world = outside change system.world)) := by
  cases move with
  | spawn name call =>
    refine .inl ⟨name, call, rfl, fun process member => ?_⟩
    simp only [System.step, spawn] at member
    -- a name that is taken spawns nothing
    cases inserted : system.processes.insert ⟨name, call, program name call, [system.world]⟩ with
    | none => exact .inl (by simpa [inserted] using member)
    | some processes =>
      rw [inserted, Option.getD_some] at member
      exact ((Table.mem_insert inserted).mp member).imp_right fun same =>
        ⟨(Table.insert_eq_some.mp inserted).1, same⟩
  | advance name input =>
    simp only [System.step, advance]
    -- nor does a name without a process move
    cases found : system.processes.find? name with
    | none =>
      have absent := Table.find?_eq_none.mp found
      exact .inr (.inr ⟨Table.update_of_not absent (Process.name_next input system.world),
        .inl rfl⟩)
    | some mover =>
      obtain ⟨present, named⟩ := Table.find?_eq_some.mp found
      refine .inr (.inl ⟨input, mover, present, rfl, fun process member => ?_⟩)
      -- the row of the name is the one process that moves
      obtain ⟨old, listed, rfl⟩ := Table.exists_of_mem_update member
      by_cases same : old.name = name
      · rw [if_pos same, Table.eq_of_key listed present (same.trans named.symm)]
        exact .inr rfl
      · rw [if_neg same]
        exact .inl ⟨listed, fun equal => same (equal.trans named)⟩
  | outside change => exact .inr (.inr ⟨rfl, .inr ⟨change, rfl⟩⟩)

/-- A process stays in the system, with its name and its call. -/
theorem System.exists_step (program : κ → χ → Program σ ι ε α) (outside : ω → σ → σ)
    (system : System κ χ σ ι ε α) (move : Move κ χ ι ω) {process : Process κ χ σ ι ε α}
    (present : process ∈ system.processes.rows) :
    ∃ later ∈ (system.step program outside move).processes.rows,
      later.name = process.name ∧ later.call = process.call := by
  cases move with
  | spawn name call =>
    refine ⟨process, ?_, rfl, rfl⟩
    simp only [System.step, spawn]
    cases inserted : system.processes.insert ⟨name, call, program name call, [system.world]⟩ with
    | none => exact present
    | some processes => exact (Table.mem_insert inserted).mpr (.inl present)
  | advance name input =>
    by_cases same : process.name = name
    · exact ⟨process.next input system.world,
        Table.mem_update_of present same (Process.name_next input system.world),
        Process.name_next input system.world process, Process.call_next input system.world process⟩
    · exact ⟨process, Table.mem_update_of_not present same (Process.name_next input system.world),
        rfl, rfl⟩
  | outside change => exact ⟨process, present, rfl, rfl⟩

/-- **Views.** Every move of a system keeps its processes viewed. -/
theorem System.Viewed.step {system : System κ χ σ ι ε α} (viewed : system.Viewed program I K R)
    (ordered : Ordered program outside I K R) (move : Move κ χ ι ω) :
    (system.step program outside move).Viewed program I K R ∧
      K system.world (system.step program outside move).world := by
  have start := viewed.valid
  rcases System.cases_step program outside system move with
    ⟨name, call, world, processes⟩ | ⟨input, mover, present, world, processes⟩ | ⟨processes, world⟩
  · refine ⟨⟨world ▸ start, fun process member => ?_⟩, ?_⟩ <;> rw [world]
    case refine_2 => exact ordered.kept_refl _ start
    rcases processes process member with old | ⟨-, rfl⟩
    · exact viewed.views process old
    · exact Process.viewed_start ordered name call start
  · obtain ⟨moved, good, kept, others⟩ := (viewed.views mover present).next ordered start input
    refine ⟨⟨world ▸ good, fun process member => ?_⟩, world ▸ kept⟩
    rw [world]
    rcases processes process member with ⟨old, other⟩ | rfl
    · exact (viewed.views process old).stay ordered kept (others _ other)
    · exact moved
  · have kept : I (system.step program outside move).world ∧
        K system.world (system.step program outside move).world ∧
        ∀ name, R name system.world (system.step program outside move).world := by
      rcases world with same | ⟨change, changed⟩
      · rw [same]
        exact ⟨start, ordered.kept_refl _ start, fun name => ordered.refl name _ start⟩
      · rw [changed]
        exact ⟨ordered.outside_valid change _ start, ordered.outside_keeps change _ start,
          fun name => ordered.outside_guards change name _ start⟩
    refine ⟨⟨kept.1, fun process member => ?_⟩, kept.2.1⟩
    rw [processes] at member
    exact (viewed.views process member).stay ordered kept.2.1 (kept.2.2 _)

/-- In every run of a system all processes are viewed. -/
theorem System.viewed_run (ordered : Ordered program outside I K R) (start : I world)
    (moves : List (Move κ χ ι ω)) :
    (run (System.step program outside) (System.start world) moves).Viewed program I K R :=
  invariant_run (fun _ move viewed => (viewed.step ordered move).1)
    ⟨start, fun _ member => nomatch member⟩ moves

/-- What every step keeps to, every run of a system keeps to. -/
theorem System.kept_run (ordered : Ordered program outside I K R) {system : System κ χ σ ι ε α}
    (viewed : system.Viewed program I K R) (moves : List (Move κ χ ι ω)) :
    K system.world (run (System.step program outside) system moves).world := by
  induction moves generalizing system with
  | nil => exact ordered.kept_refl _ viewed.valid
  | cons move moves ih =>
    obtain ⟨next, kept⟩ := viewed.step ordered move
    exact ordered.kept_trans kept (ih next)

end Views

end Systems

end Semantics
