import Pcrf.Lib.Program
import Pcrf.Lib.Turns

/-!
Requests that are served by programs on a shared state, begun at any time and going on side by
side, each on behalf of a key. When the requests of one key are served one after another, what is
seen of the key is what they make of it in turn, whatever the programs of other keys do meanwhile.
-/

namespace Lib

variable {κ σ ι ρ τ ο ω : Type}

/-- `track` follows the steps: whatever the program reads, they take `w` to `w'`. -/
def Program.Leads (track : ω → ι → ω) : Program σ ι → ω → ω → Prop
  | .done, w, w' => w = w'
  | .read next, w, w' => ∀ s, (next s).Leads track w w'
  | .make a next, w, w' => next.Leads track (track w a) w'

/-- A property that does not depend on the step goes with every step. -/
theorem Program.all_and {p : ι → Prop} {c : Prop} {program : Program σ ι}
    (h : program.All p) (holds : c) : program.All fun a => c ∧ p a := by
  induction program with
  | done => trivial
  | read next ih => exact fun s => ih s (h s)
  | make a next ih => exact ⟨⟨holds, h.1⟩, ih h.2⟩

theorem Program.makes_append (steps more : List ι) (next : Program σ ι) :
    makes (steps ++ more) next = makes steps (makes more next) := by
  induction steps with
  | nil => rfl
  | cons a steps ih => exact congrArg (make a) ih

theorem Program.leads_makes {track : ω → ι → ω} {steps : List ι} {next : Program σ ι}
    {w w' : ω} (h : next.Leads track (steps.foldl track w) w') :
    (makes steps next).Leads track w w' := by
  induction steps generalizing w with
  | nil => exact h
  | cons a steps ih => exact ih h

theorem Program.leads_of_done {track : ω → ι → ω} {p : Program σ ι} (done : p.isDone = true)
    {w w' : ω} (h : p.Leads track w w') : w = w' := by
  cases p with
  | done => exact h
  | read next => cases done
  | make a next => cases done

/-- How requests are served. A step may depend on an input of its time, and the state may also be
changed from elsewhere. -/
structure Service (κ σ ι ρ τ ο : Type) where
  key : ρ → κ
  program : ρ → Program σ ι
  perform : σ → ι → τ → σ
  background : σ → ο → σ

/-- The state, the programs begun, and the requests that they serve. -/
structure Serving (κ σ ι ρ : Type) where
  state : σ
  running : List (κ × Program σ ι) := []
  begun : List ρ := []

inductive ServingOp (ρ τ ο : Type) where
  | start (request : ρ)
  | turn (i : Nat) (input : τ)
  | other (o : ο)
  deriving Repr, DecidableEq

/-- No program of the key has anything left to do. -/
def Serving.Free (s : Serving κ σ ι ρ) (k : κ) : Prop :=
  ∀ p ∈ s.running, p.1 = k → p.2.isDone = true

instance [DecidableEq κ] (s : Serving κ σ ι ρ) (k : κ) : Decidable (s.Free k) :=
  inferInstanceAs (Decidable (∀ p ∈ s.running, p.1 = k → p.2.isDone = true))

namespace Service

variable (service : Service κ σ ι ρ τ ο)

def step (s : Serving κ σ ι ρ) : ServingOp ρ τ ο → Serving κ σ ι ρ
  | .start request =>
    { s with
      running := s.running ++ [(service.key request, service.program request)]
      begun := s.begun ++ [request] }
  | .turn i input =>
    match s.running[i]? with
    | some (key, .read next) => { s with running := s.running.set i (key, next s.state) }
    | some (key, .make a next) =>
      { s with
        state := service.perform s.state a input
        running := s.running.set i (key, next) }
    | _ => s
  | .other o => { s with state := service.background s.state o }

def machine (init : σ) : Machine (Serving κ σ ι ρ) (ServingOp ρ τ ο) where
  init := { state := init }
  step := service.step

/-- Requests of one key are served one after another; what else happens is `quiet`. -/
def Regular (admissible : ρ → Prop) (quiet : ο → Prop) (s : Serving κ σ ι ρ) :
    ServingOp ρ τ ο → Prop
  | .start request => admissible request ∧ s.Free (service.key request)
  | .turn _ _ => True
  | .other o => quiet o

instance [DecidableEq κ] (admissible : ρ → Prop) [DecidablePred admissible] (quiet : ο → Prop)
    [DecidablePred quiet] (s : Serving κ σ ι ρ) : DecidablePred (service.Regular admissible quiet s)
  | .start _ => inferInstanceAs (Decidable (_ ∧ _))
  | .turn _ _ => .isTrue trivial
  | .other o => inferInstanceAs (Decidable (quiet o))

/-- What is known of every request that is begun may be asked of what is admitted. -/
theorem regular_and {service : Service κ σ ι ρ τ ο} {p q : ρ → Prop} {quiet : ο → Prop} {init : σ}
    {s : Serving κ σ ι ρ} {ops : List (ServingOp ρ τ ο)}
    (regular : (service.machine init).MeetsFrom (service.Regular p quiet) s ops)
    (known : ∀ request, .start request ∈ ops → q request) :
    (service.machine init).MeetsFrom
      (service.Regular (fun request => p request ∧ q request) quiet) s ops := by
  induction ops generalizing s with
  | nil => trivial
  | cons op ops ih =>
    refine ⟨?_, ih regular.2 fun request mem => known request (List.mem_cons_of_mem _ mem)⟩
    cases op with
    | start request => exact ⟨⟨regular.1.1, known request List.mem_cons_self⟩, regular.1.2⟩
    | turn i input => trivial
    | other o => exact regular.1

/-- What is seen of a key is changed by the steps of its own programs only, and each of them leads
to what its request should make of it. -/
structure Follows (admissible : ρ → Prop) (quiet : ο → Prop) (own : κ → ι → Prop)
    (view : κ → σ → ω) (track : ω → ι → ω) (after : ω → ρ → ω) : Prop where
  all : ∀ r, admissible r → (service.program r).All (own (service.key r))
  leads : ∀ r w, admissible r → (service.program r).Leads track w (after w r)
  mine : ∀ k s a input, own k a → view k (service.perform s a input) = track (view k s) a
  others : ∀ k k' s a input, own k a → k ≠ k' → view k' (service.perform s a input) = view k' s
  background : ∀ k s o, quiet o → view k (service.background s o) = view k s

end Service

/-! ### The invariant -/

section Invariant

variable [DecidableEq κ] {service : Service κ σ ι ρ τ ο} {admissible : ρ → Prop}
  {quiet : ο → Prop} {own : κ → ι → Prop} {view : κ → σ → ω} {track : ω → ι → ω}
  {after : ω → ρ → ω}

/-- The requests of a key. -/
def Serving.requestsOf (service : Service κ σ ι ρ τ ο) (s : Serving κ σ ι ρ) (k : κ) : List ρ :=
  s.begun.filter fun request => service.key request = k

/-- What the requests of a key should make of it. -/
def Serving.expected (service : Service κ σ ι ρ τ ο) (after : ω → ρ → ω) (start : κ → ω)
    (s : Serving κ σ ι ρ) (k : κ) : ω :=
  (s.requestsOf service k).foldl after (start k)

theorem Serving.expected_start (s : Serving κ σ ι ρ) (start : κ → ω) (request : ρ) (k : κ) :
    (service.step s (.start request)).expected service after start k =
      if service.key request = k then after (s.expected service after start k) request
      else s.expected service after start k := by
  by_cases same : service.key request = k <;>
    simp [Serving.expected, Serving.requestsOf, Service.step, same]

/-- What is seen of a key leads to what is expected, by its one program that is not done. -/
structure Serving.InTurn (service : Service κ σ ι ρ τ ο) (own : κ → ι → Prop)
    (view : κ → σ → ω) (track : ω → ι → ω) (after : ω → ρ → ω) (start : κ → ω)
    (s : Serving κ σ ι ρ) : Prop where
  alone : s.running.Pairwise fun p later =>
    p.1 = later.1 → p.2.isDone = true ∨ later.2.isDone = true
  own : ∀ p ∈ s.running, p.2.All (own p.1)
  busy : ∀ p ∈ s.running, p.2.isDone = false →
    p.2.Leads track (view p.1 s.state) (s.expected service after start p.1)
  free : ∀ k, s.Free k → view k s.state = s.expected service after start k

variable {start : κ → ω} {s : Serving κ σ ι ρ}

theorem Serving.InTurn.begin (follows : service.Follows admissible quiet own view track after)
    (h : s.InTurn service own view track after start) {request : ρ}
    (admitted : admissible request) (free : s.Free (service.key request)) :
    (service.step s (.start request)).InTurn service own view track after start where
  alone := by
    refine List.pairwise_append.mpr ⟨h.alone, List.pairwise_singleton .., ?_⟩
    intro p mem later last same
    obtain rfl := List.mem_singleton.mp last
    exact .inl (free p mem same)
  own p mem := by
    rcases List.mem_append.mp mem with old | new
    · exact h.own p old
    · obtain rfl := List.mem_singleton.mp new
      exact follows.all request admitted
  busy p mem unfinished := by
    rw [expected_start]
    rcases List.mem_append.mp mem with old | new
    · have other : service.key request ≠ p.1 := by
        intro same
        rw [free p old same.symm] at unfinished
        cases unfinished
      rw [if_neg other]
      exact h.busy p old unfinished
    · obtain rfl := List.mem_singleton.mp new
      rw [if_pos rfl, ← h.free _ free]
      exact follows.leads request _ admitted
  free k freeAfter := by
    have freeBefore : s.Free k := fun p mem => freeAfter p (List.mem_append_left _ mem)
    rw [expected_start]
    split
    next same =>
      -- a program that is done at once
      have done : (service.program request).isDone = true :=
        freeAfter (service.key request, service.program request) (by simp [Service.step]) same
      rw [← h.free k freeBefore]
      exact Program.leads_of_done done (follows.leads request _ admitted)
    next => exact h.free k freeBefore

/-- A program goes on: what is seen of its key leads to the same end. -/
theorem Serving.InTurn.replace (h : s.InTurn service own view track after start) {i : Nat}
    {k : κ} {p next : Program σ ι} {state : σ} (there : s.running[i]? = some (k, p))
    (unfinished : p.isDone = false) (steps : next.All (own k))
    (leads : next.Leads track (view k state) (s.expected service after start k))
    (same : ∀ k', k ≠ k' → view k' state = view k' s.state) :
    { s with state := state, running := s.running.set i (k, next) }.InTurn service own view track
      after start := by
  have inside := (List.getElem?_eq_some_iff.mp there).1
  -- the other programs of the key are done
  have others : ∀ j q, j ≠ i → s.running[j]? = some (k, q) → q.isDone = true := by
    intro j q ne at_
    have pairs := List.pairwise_iff_getElem.mp h.alone
    obtain ⟨jInside, atJ⟩ := List.getElem?_eq_some_iff.mp at_
    obtain ⟨iInside, atI⟩ := List.getElem?_eq_some_iff.mp there
    rcases Nat.lt_or_gt_of_ne ne with less | greater
    · have := pairs j i jInside inside less
      rw [atJ, atI] at this
      exact (this rfl).resolve_right (by simp [unfinished])
    · have := pairs i j inside jInside greater
      rw [atJ, atI] at this
      exact (this rfl).resolve_left (by simp [unfinished])
  have cases_ : ∀ q ∈ s.running.set i (k, next), q = (k, next) ∨
      ∃ j, j ≠ i ∧ s.running[j]? = some q := by
    intro q mem
    obtain ⟨j, at_⟩ := List.getElem?_of_mem mem
    by_cases now : j = i
    · subst now
      rw [List.getElem?_set_self inside] at at_
      exact .inl (Option.some.inj at_).symm
    · rw [List.getElem?_set_ne (Ne.symm now)] at at_
      exact .inr ⟨j, now, at_⟩
  constructor
  case alone =>
    refine pairwise_set h.alone there (fun q before same' => ?_) (fun q later same' => ?_)
    · exact .inl ((before same').resolve_right (by simp [unfinished]))
    · exact .inr ((later same').resolve_left (by simp [unfinished]))
  case own =>
    intro q mem
    rcases cases_ q mem with rfl | ⟨j, -, at_⟩
    · exact steps
    · exact h.own q (List.mem_of_getElem? at_)
  case busy =>
    intro q mem unfinishedAfter
    rcases cases_ q mem with rfl | ⟨j, ne, at_⟩
    · exact leads
    · have other : k ≠ q.1 := by
        rintro rfl
        rw [others j q.2 ne at_] at unfinishedAfter
        cases unfinishedAfter
      change q.2.Leads track (view q.1 state) (s.expected service after start q.1)
      rw [same q.1 other]
      exact h.busy q (List.mem_of_getElem? at_) unfinishedAfter
  case free =>
    intro k' freeAfter
    change view k' state = s.expected service after start k'
    by_cases mine : k = k'
    · subst mine
      have done : next.isDone = true :=
        freeAfter (k, next) (List.mem_of_getElem? (List.getElem?_set_self inside)) rfl
      exact Program.leads_of_done done leads
    · rw [same k' mine]
      refine h.free k' fun q mem key => ?_
      obtain ⟨j, at_⟩ := List.getElem?_of_mem mem
      have ne : j ≠ i := by
        rintro rfl
        obtain rfl := Option.some.inj (there.symm.trans at_)
        exact mine key
      refine freeAfter q (List.mem_of_getElem? (i := j) ?_) key
      rw [List.getElem?_set_ne (Ne.symm ne), at_]

theorem Serving.InTurn.turn (follows : service.Follows admissible quiet own view track after)
    (h : s.InTurn service own view track after start) (i : Nat) (input : τ) :
    (service.step s (.turn i input)).InTurn service own view track after start := by
  simp only [Service.step]
  split
  next key next there =>
    have mem := List.mem_of_getElem? there
    exact h.replace there rfl (h.own _ mem s.state) (h.busy _ mem rfl s.state) fun _ _ => rfl
  next key a next there =>
    have mem := List.mem_of_getElem? there
    obtain ⟨mine, rest⟩ := h.own _ mem
    have leads := h.busy _ mem rfl
    refine h.replace there rfl rest ?_ fun k' ne => follows.others key k' _ a input mine ne
    rw [follows.mine key _ a input mine]
    exact leads
  next => exact h

theorem Serving.InTurn.other (follows : service.Follows admissible quiet own view track after)
    (h : s.InTurn service own view track after start) {o : ο} (still : quiet o) :
    (service.step s (.other o)).InTurn service own view track after start where
  alone := h.alone
  own := h.own
  busy p mem unfinished := by
    change p.2.Leads track (view p.1 (service.background s.state o))
      (s.expected service after start p.1)
    rw [follows.background _ _ _ still]
    exact h.busy p mem unfinished
  free k freeAfter := by
    change view k (service.background s.state o) = s.expected service after start k
    rw [follows.background _ _ _ still]
    exact h.free k freeAfter

/-- In every run that serves the requests of each key one after another, this holds. -/
theorem Service.run_inTurn (follows : service.Follows admissible quiet own view track after)
    (init : σ) {ops : List (ServingOp ρ τ ο)}
    (regular : (service.machine init).Meets (service.Regular admissible quiet) ops) :
    ((service.machine init).run ops).InTurn service own view track after
      fun k => view k init := by
  refine (service.machine init).inv_of_meets ?_ (fun s op h regular => ?_) regular
  · exact ⟨List.Pairwise.nil, fun p mem => absurd mem List.not_mem_nil,
      fun p mem => absurd mem List.not_mem_nil, fun _ _ => rfl⟩
  · cases op with
    | start request => exact h.begin follows regular.1 regular.2
    | turn i input => exact h.turn follows i input
    | other o => exact h.other follows regular

/-- When no program of the key is at work, what is seen of it is what its requests make. -/
theorem Service.view_of_free (follows : service.Follows admissible quiet own view track after)
    (init : σ) {ops : List (ServingOp ρ τ ο)}
    (regular : (service.machine init).Meets (service.Regular admissible quiet) ops) {k : κ}
    (free : ((service.machine init).run ops).Free k) :
    view k ((service.machine init).run ops).state =
      (((service.machine init).run ops).requestsOf service k).foldl after (view k init) :=
  (service.run_inTurn follows init regular).free k free

omit [DecidableEq κ] in
/-- An invariant of the state that every step of a program keeps. -/
theorem Service.state_inv {I : σ → Prop}
    (follows : service.Follows admissible quiet own view track after) (init : σ) (start : I init)
    (performs : ∀ k s a input, I s → own k a → I (service.perform s a input))
    (background : ∀ s o, I s → quiet o → I (service.background s o))
    {ops : List (ServingOp ρ τ ο)}
    (regular : (service.machine init).Meets (service.Regular admissible quiet) ops) :
    I ((service.machine init).run ops).state := by
  have inv := (service.machine init).inv_of_meets
    (I := fun s : Serving κ σ ι ρ => (∀ p ∈ s.running, p.2.All (own p.1)) ∧ I s.state)
    ⟨fun p mem => absurd mem List.not_mem_nil, start⟩ (fun s op h regular => ?_) regular
  · exact inv.2
  obtain ⟨all, holds⟩ := h
  have replaced {i : Nat} {k : κ} {next : Program σ ι} (steps : next.All (own k)) :
      ∀ p ∈ s.running.set i (k, next), p.2.All (own p.1) := by
    intro p mem
    rcases List.mem_or_eq_of_mem_set mem with old | rfl
    · exact all p old
    · exact steps
  cases op with
  | start request =>
    refine ⟨fun p mem => ?_, holds⟩
    rcases List.mem_append.mp mem with old | new
    · exact all p old
    · obtain rfl := List.mem_singleton.mp new
      exact follows.all request regular.1
  | turn i input =>
    change (∀ p ∈ (service.step s (.turn i input)).running, p.2.All (own p.1)) ∧
      I (service.step s (.turn i input)).state
    simp only [Service.step]
    split
    next key next there =>
      exact ⟨replaced (all _ (List.mem_of_getElem? there) s.state), holds⟩
    next key a next there =>
      obtain ⟨mine, rest⟩ := all _ (List.mem_of_getElem? there)
      exact ⟨replaced rest, performs key _ a input holds mine⟩
    next => exact ⟨all, holds⟩
  | other o => exact ⟨all, background _ o holds regular⟩

end Invariant

end Lib
