import Linkapro.Lib.Sequential

/-!
# Outcomes of programs that run alone

A program alone, under all the choices that a store may make at its calls, yields a
condition when its last value and state always satisfy it. The rules compute the
condition of a program from its parts. An action that only reads leaves the state,
whether it returns or raises, so that its value is all that the rest of the program sees.
-/

namespace Lib

variable {σ χ Op α β : Type}

namespace Program

variable {Ret : Op → Type} {exec : Exec σ χ Ret} {may : Op → σ → χ → Prop}

/-- Under every choice that the store may make at its calls, the program alone ends with a value
and a state that satisfy `post`. -/
def Yields (exec : Exec σ χ Ret) (may : Op → σ → χ → Prop) :
    Program Ret α → σ → (α → σ → Prop) → Prop
  | .done value, s, post => post value s
  | .call op next, s, post => ∀ choice, may op s choice →
      Yields exec may (next (exec choice op s).1) (exec choice op s).2 post

/-- Each call of a lone run is made under a choice that the store may make. -/
def Along (exec : Exec σ χ Ret) (may : Op → σ → χ → Prop) (choices : ℕ → χ) :
    Program Ret α → ℕ → σ → Prop
  | .done _, _, _ => True
  | .call op next, k, s => may op s (choices k) ∧
      Along exec may choices (next (exec (choices k) op s).1) (k + 1) (exec (choices k) op s).2

instance Along.decidable {may : Op → σ → χ → Prop} {choices : ℕ → χ}
    [∀ op s choice, Decidable (may op s choice)] :
    ∀ (program : Program Ret α) (k : ℕ) (s : σ), Decidable (program.Along exec may choices k s)
  | .done _, _, _ => isTrue trivial
  | .call op next, k, s =>
    have : Decidable (Along exec may choices (next (exec (choices k) op s).1) (k + 1)
        (exec (choices k) op s).2) := Along.decidable _ _ _
    inferInstanceAs (Decidable (_ ∧ _))

/-- A run meets two conditions at once. -/
theorem Along.and {may' : Op → σ → χ → Prop} {choices : ℕ → χ} {program : Program Ret α} {k : ℕ}
    {s : σ} (h : program.Along exec may choices k s) (h' : program.Along exec may' choices k s) :
    program.Along exec (fun op s choice => may op s choice ∧ may' op s choice) choices k s := by
  induction program generalizing k s with
  | done value => trivial
  | call op next ih => exact ⟨⟨h.1, h'.1⟩, ih _ h.2 h'.2⟩

/-- A condition that all choices meet is met by each run. -/
theorem along_of_forall {choices : ℕ → χ} (h : ∀ op s k, may op s (choices k))
    (program : Program Ret α) (k : ℕ) (s : σ) : program.Along exec may choices k s := by
  induction program generalizing k s with
  | done value => trivial
  | call op next ih => exact ⟨h op s k, ih _ (k + 1) _⟩

theorem Yields.mono {program : Program Ret α} {s : σ} {post post' : α → σ → Prop}
    (h : program.Yields exec may s post) (hpost : ∀ value s, post value s → post' value s) :
    program.Yields exec may s post' := by
  induction program generalizing s with
  | done value => exact hpost value s h
  | call op next ih => exact fun choice hchoice => ih _ (h choice hchoice)

/-- The outcomes of a sequence are those of its second part after each outcome of the first. -/
theorem yields_bind_iff {program : Program Ret α} {f : α → Program Ret β} {s : σ}
    {post : β → σ → Prop} :
    Yields exec may (program >>= f) s post ↔
      program.Yields exec may s fun value middle => (f value).Yields exec may middle post := by
  induction program generalizing s with
  | done value => rfl
  | call op next ih => exact forall_congr' fun choice => imp_congr_right fun _ => ih _

theorem yields_true (program : Program Ret α) (s : σ) :
    program.Yields exec may s fun _ _ => True := by
  induction program generalizing s with
  | done value => trivial
  | call op next ih => exact fun choice _ => ih _ _

/-- What a program yields holds at the end of each of its lone runs. -/
theorem Yields.runOn {program : Program Ret α} {s : σ} {post : α → σ → Prop}
    (h : program.Yields exec may s post) {choices : ℕ → χ} {k : ℕ}
    (hchoices : program.Along exec may choices k s) :
    let finished := program.runOn exec choices k s
    post finished.value finished.state := by
  induction program generalizing s k with
  | done value => exact h
  | call op next ih => exact ih _ (h _ hchoices.1) hchoices.2

end Program

namespace Action

variable {ε : Type} {Ret : Op → Type} {exec : Exec σ χ (Raising ε Ret)}
  {may : Op → σ → χ → Prop} {s : σ}

/-- The outcomes of an action, which are values or errors. -/
def Yields (exec : Exec σ χ (Raising ε Ret)) (may : Op → σ → χ → Prop) (action : Action ε Ret α)
    (s : σ) (post : Except ε α → σ → Prop) : Prop :=
  Program.Yields exec may action.run s post

theorem Yields.mono {action : Action ε Ret α} {post post' : Except ε α → σ → Prop}
    (h : action.Yields exec may s post) (hpost : ∀ outcome s, post outcome s → post' outcome s) :
    action.Yields exec may s post' :=
  Program.Yields.mono h hpost

theorem yields_pure {value : α} {post : Except ε α → σ → Prop} (h : post (.ok value) s) :
    Yields exec may (pure value : Action ε Ret α) s post :=
  h

theorem yields_throw {error : ε} {post : Except ε α → σ → Prop} (h : post (.error error) s) :
    Yields exec may (throw error : Action ε Ret α) s post :=
  h

theorem yields_perform {op : Op} {post : Except ε (Ret op) → σ → Prop}
    (h : ∀ choice, may op s choice → post (exec choice op s).1 (exec choice op s).2) :
    Yields exec may (perform op) s post :=
  h

/-- The sequence rule, through a condition between its parts. -/
theorem Yields.bind {action : Action ε Ret α} {f : α → Action ε Ret β}
    {middle : Except ε α → σ → Prop} {post : Except ε β → σ → Prop}
    (h : action.Yields exec may s middle)
    (hok : ∀ value s, middle (.ok value) s → (f value).Yields exec may s post)
    (herror : ∀ error s, middle (.error error) s → post (.error error) s) :
    Yields exec may (action >>= f) s post := by
  refine Program.yields_bind_iff.mpr (Program.Yields.mono h fun outcome s' houtcome => ?_)
  cases outcome with
  | ok value => exact hok value s' houtcome
  | error error => exact herror error s' houtcome

/-- The sequence rule for a first part of which only the end matters. -/
theorem Yields.after {action : Action ε Ret α} {f : α → Action ε Ret β}
    {post : Except ε β → σ → Prop} (hok : ∀ value s, (f value).Yields exec may s post)
    (herror : ∀ error s, post (.error error) s) : Yields exec may (action >>= f) s post :=
  Yields.bind (Program.yields_true action.run s) (fun value s' _ => hok value s')
    fun error s' _ => herror error s'

/-- The rule of a branch. -/
theorem Yields.ite {c : Prop} [Decidable c] {first second : Action ε Ret α}
    {post : Except ε α → σ → Prop} (hfirst : c → first.Yields exec may s post)
    (hsecond : ¬ c → second.Yields exec may s post) :
    Yields exec may (if c then first else second) s post := by
  split
  · next h => exact hfirst h
  · next h => exact hsecond h

/-- The rule of a loop, where `I` holds before each round and after the last one. -/
theorem yields_forM {γ : Type} {program : γ → Action ε Ret Unit} {I : σ → Prop}
    {post : Except ε Unit → σ → Prop} (values : List γ)
    (hround : ∀ value ∈ values, ∀ s, I s → (program value).Yields exec may s fun outcome s' =>
      match outcome with
      | .ok _ => I s'
      | .error error => post (.error error) s')
    (hend : ∀ s, I s → post (.ok ()) s) (hI : I s) :
    Yields exec may (values.forM program) s post := by
  induction values generalizing s with
  | nil => exact hend s hI
  | cons value values ih =>
    refine (hround value List.mem_cons_self s hI).bind (fun _ s' hI' => ?_) fun _ _ h => h
    exact ih (fun value' hmem => hround value' (List.mem_cons_of_mem _ hmem)) hI'

/-- Each call of a lone run of an action is made under a choice that the store may make. -/
def Along (exec : Exec σ χ (Raising ε Ret)) (may : Op → σ → χ → Prop) (choices : ℕ → χ)
    (action : Action ε Ret α) (k : ℕ) (s : σ) : Prop :=
  Program.Along exec may choices action.run k s

instance {choices : ℕ → χ} [∀ op s choice, Decidable (may op s choice)] (action : Action ε Ret α)
    (k : ℕ) (s : σ) : Decidable (action.Along exec may choices k s) :=
  inferInstanceAs (Decidable (Program.Along exec may choices action.run k s))

/-- What an action yields holds at the end of each of its lone runs. -/
theorem Yields.runOn {action : Action ε Ret α} {post : Except ε α → σ → Prop}
    (h : action.Yields exec may s post) {choices : ℕ → χ} {k : ℕ}
    (hchoices : action.Along exec may choices k s) :
    let finished := action.runOn exec choices k s
    post finished.value finished.state :=
  Program.Yields.runOn h hchoices

/-- The action leaves the state, and a value that it returns satisfies `P`. -/
def Reads (exec : Exec σ χ (Raising ε Ret)) (may : Op → σ → χ → Prop) (action : Action ε Ret α)
    (s : σ) (P : α → Prop) : Prop :=
  action.Yields exec may s fun outcome s' => s' = s ∧ ∀ value, outcome = .ok value → P value

theorem reads_pure {value : α} {P : α → Prop} (h : P value) :
    Reads exec may (pure value : Action ε Ret α) s P :=
  ⟨rfl, fun _ heq => Except.ok.inj heq ▸ h⟩

theorem reads_throw {error : ε} {P : α → Prop} :
    Reads exec may (throw error : Action ε Ret α) s P :=
  ⟨rfl, fun _ heq => by cases heq⟩

/-- A call that leaves the state. -/
theorem reads_perform {op : Op} {P : Ret op → Prop}
    (hstate : ∀ choice, may op s choice → (exec choice op s).2 = s)
    (hP : ∀ choice, may op s choice → ∀ answer, (exec choice op s).1 = .ok answer → P answer) :
    Reads exec may (perform op) s P :=
  yields_perform fun choice hchoice => ⟨hstate choice hchoice, hP choice hchoice⟩

theorem Reads.mono {action : Action ε Ret α} {P Q : α → Prop} (h : action.Reads exec may s P)
    (hPQ : ∀ value, P value → Q value) : action.Reads exec may s Q :=
  Yields.mono h fun _ _ hread => ⟨hread.1, fun value hvalue => hPQ value (hread.2 value hvalue)⟩

/-- What follows a part that only reads starts from the same state. -/
theorem Reads.bind_yields {action : Action ε Ret α} {f : α → Action ε Ret β} {P : α → Prop}
    {post : Except ε β → σ → Prop} (h : action.Reads exec may s P)
    (hok : ∀ value, P value → (f value).Yields exec may s post)
    (herror : ∀ error, post (.error error) s) : Yields exec may (action >>= f) s post := by
  refine Yields.bind h (fun value s' hread => ?_) fun error s' hread => ?_
  · obtain ⟨rfl, hvalue⟩ := hread
    exact hok value (hvalue value rfl)
  · obtain ⟨rfl, _⟩ := hread
    exact herror error

/-- A sequence of two parts that only read. -/
theorem Reads.bind {action : Action ε Ret α} {f : α → Action ε Ret β} {P : α → Prop}
    {Q : β → Prop} (h : action.Reads exec may s P)
    (hf : ∀ value, P value → (f value).Reads exec may s Q) : Reads exec may (action >>= f) s Q :=
  h.bind_yields hf fun _ => ⟨rfl, fun _ heq => by cases heq⟩

/-- A loop of rounds that only read has found the condition of each of them. -/
theorem reads_forM {γ : Type} {program : γ → Action ε Ret Unit} {P : γ → Prop} (values : List γ)
    (h : ∀ value ∈ values, (program value).Reads exec may s fun _ => P value) :
    Reads exec may (values.forM program) s fun _ => ∀ value ∈ values, P value := by
  induction values with
  | nil => exact reads_pure fun _ hmem => by cases hmem
  | cons value values ih =>
    refine (h value List.mem_cons_self).bind fun _ hvalue => ?_
    refine (ih fun value' hmem => h value' (List.mem_cons_of_mem _ hmem)).mono fun _ hvalues => ?_
    exact List.forall_mem_cons.mpr ⟨hvalue, hvalues⟩

end Action

end Lib
