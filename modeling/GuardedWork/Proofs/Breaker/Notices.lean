import GuardedWork.Proofs.Breaker.Consistency
import Mathlib.Algebra.GroupWithZero.Nat

namespace GuardedWork

variable {ε α : Type}

namespace BreakerState

inductive Walk : BreakerState → List (BreakerState × BreakerState) → BreakerState → Prop where
  | nil {s : BreakerState} : Walk s [] s
  | cons {s t u : BreakerState} {rest : List (BreakerState × BreakerState)} : Walk t rest u → Walk s ((s, t) :: rest) u

inductive Edge (byReset : Bool) : BreakerState → BreakerState → Prop where
  | opening : Edge byReset .closed .opened
  | probing : Edge byReset .opened .halfOpen
  | reopening : Edge byReset .halfOpen .opened
  | closing : Edge byReset .halfOpen .closed
  | forcing (reset : byReset = true) : Edge byReset .opened .closed

variable {s t u : BreakerState} {changes : List (BreakerState × BreakerState)}

theorem Walk.concat (walk : Walk s changes t) (u : BreakerState) : Walk s (changes ++ [(t, u)]) u := by
  induction walk with
  | nil => exact .cons .nil
  | cons _ ih => exact .cons ih

def entries (changes : List (BreakerState × BreakerState)) (state : BreakerState) : Nat := changes.countP fun c => c.2 = state
def exits (changes : List (BreakerState × BreakerState)) (state : BreakerState) : Nat := changes.countP fun c => c.1 = state

theorem Walk.balance (walk : Walk s changes t) (state : BreakerState) :
    (entries changes state : Int) - exits changes state = (if t = state then 1 else 0) - (if s = state then 1 else 0) := by
  induction walk with
  | nil => simp [entries, exits]
  | @cons s t u rest _ ih =>
    simp only [entries, exits, List.countP_cons, decide_eq_true_eq] at ih ⊢
    split <;> split <;> simp_all <;> omega

def every : List BreakerState := [.closed, .halfOpen, .opened]

theorem count_entries (changes : List (BreakerState × BreakerState)) (state : BreakerState) :
    (every.map fun source => changes.count (source, state)).sum = entries changes state := by
  induction changes with
  | nil => rfl
  | cons change rest ih =>
    obtain ⟨source, target⟩ := change
    simp only [entries, every, List.map_cons, List.map_nil, List.sum_cons, List.sum_nil, List.count_cons,
      List.countP_cons, beq_iff_eq, Prod.mk.injEq, decide_eq_true_eq] at ih ⊢
    by_cases here : target = state
    · cases source <;> simp_all <;> omega
    · simp_all

theorem count_exits (changes : List (BreakerState × BreakerState)) (state : BreakerState) :
    (every.map fun target => changes.count (state, target)).sum = exits changes state := by
  induction changes with
  | nil => rfl
  | cons change rest ih =>
    obtain ⟨source, target⟩ := change
    simp only [exits, every, List.map_cons, List.map_nil, List.sum_cons, List.sum_nil, List.count_cons,
      List.countP_cons, beq_iff_eq, Prod.mk.injEq, decide_eq_true_eq] at ih ⊢
    by_cases here : source = state
    · cases target <;> simp_all <;> omega
    · simp_all

end BreakerState

def BreakerAction.ListenersReturn : BreakerAction ε α → Prop
  | .listen ls => ∀ l ∈ ls, ∀ state, l.panicsOn state = false
  | .sway panics => ∀ i state, panics i state = false
  | _ => True

-- The tags of the listeners behind an action, each as often as it is registered.
def BreakerAction.registers (tags : List String) : BreakerAction ε α → List String
  | .listen ls => tags ++ ls.map Listener.tag
  | .unlisten => []
  | _ => tags

namespace BreakerMoment

def change? (m : BreakerMoment ε α) : Option (BreakerState × BreakerState) :=
  let source := m.before.memory.state
  let target := m.turned.breaker.memory.state
  if source = target then none else some (source, target)

def byReset (m : BreakerMoment ε α) : Bool := m.action matches .reset

def isRejected (m : BreakerMoment ε α) : Bool := m.answer.any Answer.isRejected

def registered (past : List (BreakerMoment ε α)) : List String := past.foldl (fun tags m => m.action.registers tags) []

def signals (past : List (BreakerMoment ε α)) : List Signal := past.flatMap fun m => m.turned.signals

def changes (past : List (BreakerMoment ε α)) : List (BreakerState × BreakerState) := past.filterMap change?

end BreakerMoment

-- A log line, one notification for each tag in order, and a count.
def Breaker.announcement (rule : Rule) (tags : List String) (source target : BreakerState) (failures logged : Nat) : List Signal :=
  let notification := ⟨source, target, rule, if target = .opened then some failures else none⟩
  .changed source target logged :: tags.map (fun tag => .notified tag notification) ++ [.counted source target]

-- How far a counter has grown by the signals of a breaker of this name.
def Breaker.growth (name : String) (signals : List Signal) (counter : Count) : Nat :=
  (telemetry name signals).counts.countP (Count.same counter)

-- What is made known at a moment, with the tags that are registered then.
structure BreakerMoment.Told (rule : Rule) (tags : List String) (m : BreakerMoment ε α) : Prop where
  quiet : m.change? = none → m.turned.signals = if m.isRejected then [.rejected] else []
  changed : ∀ source target, m.change? = some (source, target) →
    BreakerState.Edge m.byReset source target ∧ m.isRejected = false ∧
      ∃ logged, m.turned.signals =
        Breaker.announcement rule tags source target m.turned.breaker.memory.failures logged
  failures : ∀ source, m.change? = some (source, .opened) →
    rule.threshold.toNat ≤ m.turned.breaker.memory.failures ∧
      (source = .closed → m.turned.breaker.memory.failures = rule.threshold.toNat)

namespace Breaker

variable {b : Breaker} {action : BreakerAction ε α} {turned : Turned} {checked : UInt64}

theorem notify_everyone {ls : List Listener} (returns : ∀ l ∈ ls, ∀ state, l.panicsOn state = false) (n : Notification) :
    notify n ls = (ls.map fun l => .notified l.tag n, false) := by
  induction ls with
  | nil => rfl
  | cons l ls ih =>
    have rest := ih fun l member => returns l (List.mem_cons_of_mem _ member)
    simp [notify, returns l List.mem_cons_self, rest]

theorem turn_signals (undisturbed : b.Undisturbed) (target : BreakerState) : (b.turn target).signals =
    announcement b.rule (b.listeners.map Listener.tag) b.memory.state target b.memory.failures b.memory.failures := by
  simp [turn, announcement, notify_everyone undisturbed]

theorem turning_undisturbed (undisturbed : b.Undisturbed) (returning : action.ListenersReturn) (turning : b.Turning action turned) :
    turned.breaker.Undisturbed := by
  cases turning with
  | listening =>
    intro l member
    rcases List.mem_append.mp member with old | new
    · exact undisturbed l old
    · exact returning l new
  | unlistening => exact nofun
  | swaying =>
    intro l member state
    obtain ⟨i, inside, rfl⟩ := List.mem_mapIdx.mp member
    exact returning i state
  | _ => exact undisturbed

theorem turning_returns (undisturbed : b.Undisturbed) (turning : b.Turning action turned) : turned.unwound = false := by
  cases turning with
  | probing | closing | opening => exact turn_returns (by exact undisturbed) _
  | unwound unclosed panics => exact absurd panics (by simp [turn_returns undisturbed])
  | _ => rfl

theorem turning_registers (turning : b.Turning action turned) :
    turned.breaker.listeners.map Listener.tag = action.registers (b.listeners.map Listener.tag) := by
  cases turning with
  | listening => exact List.map_append
  | swaying =>
    apply List.ext_getElem?
    intro i
    simp [stay, swayed, BreakerAction.registers, Function.comp_def]
  | _ => rfl

theorem answer_rejected : (b.answer? action).any Answer.isRejected = true ↔
    ∃ checked, action = .enter checked ∧ b.memory.state = .opened ∧ checked.toNat < b.retryAt := by
  cases action with
  | enter checked =>
    by_cases early : b.memory.state = .opened ∧ checked.toNat < b.retryAt
    · simp [answer?, early, Answer.isRejected, CallError.isRejected]
    · have unrejected : (b.answer? (.enter checked : BreakerAction ε α)).any Answer.isRejected = false := by
        rw [answer?, if_neg early]
        split <;> rfl
      simp [unrejected, early]
  | leave attempt finished =>
    have unrejected : (if (b.settle attempt finished).unwound then .panicked else attempt.answer).isRejected = false := by
      split
      · rfl
      · cases attempt <;> rfl
    simp [answer?, unrejected]
  | _ => simp [answer?]

theorem unrejected_of_free (free : b.Free checked) :
    (b.answer? (.enter checked : BreakerAction ε α)).any Answer.isRejected = false := by
  rw [Bool.eq_false_iff]
  intro rejected
  obtain ⟨_, ⟨⟩, opened, early⟩ := answer_rejected.mp rejected
  exact absurd early (Nat.not_lt.mpr (free opened))

theorem unrejected_of_other (other : ∀ checked, action ≠ .enter checked) :
    (b.answer? action).any Answer.isRejected = false := by
  rw [Bool.eq_false_iff]
  intro rejected
  obtain ⟨checked, same, _⟩ := answer_rejected.mp rejected
  exact other checked same

theorem told_quiet {rule : Rule} {tags : List String} {answer : Option (Answer ε α)}
    (same : b.memory.state = turned.breaker.memory.state)
    (signals : turned.signals = if answer.any Answer.isRejected then [.rejected] else []) :
    BreakerMoment.Told rule tags ⟨action, b, turned, answer⟩ := by
  have unchanged : BreakerMoment.change? ⟨action, b, turned, answer⟩ = none := if_pos same
  exact ⟨fun _ => signals, by simp [unchanged], by simp [unchanged]⟩

theorem told_changed {tags : List String} {answer : Option (Answer ε α)} {source target : BreakerState}
    (left : b.memory.state = source) (entered : turned.breaker.memory.state = target)
    (edge : BreakerState.Edge (BreakerMoment.byReset ⟨action, b, turned, answer⟩) source target)
    (unrejected : answer.any Answer.isRejected = false)
    (announced : ∃ logged, turned.signals =
      announcement b.rule tags source target turned.breaker.memory.failures logged)
    (failures : target = .opened → b.rule.threshold.toNat ≤ turned.breaker.memory.failures ∧
      (source = .closed → turned.breaker.memory.failures = b.rule.threshold.toNat)) :
    BreakerMoment.Told b.rule tags ⟨action, b, turned, answer⟩ := by
  have apart : source ≠ target := by
    cases edge <;> simp
  have changed : BreakerMoment.change? ⟨action, b, turned, answer⟩ = some (source, target) := by
    simp [BreakerMoment.change?, left, entered, apart]
  refine ⟨by simp [changed], ?_, ?_⟩
  · intro s t same
    cases changed.symm.trans same
    exact ⟨edge, unrejected, announced⟩
  · intro s same
    cases changed.symm.trans same
    exact failures rfl

theorem turning_told (undisturbed : b.Undisturbed)
    (reached : b.rule.threshold.toNat ≤ b.memory.failures ↔ b.memory.state ≠ .closed)
    (waits : ∀ attempt finished, action = .leave attempt finished → b.memory.state ≠ .opened)
    (turning : b.Turning action turned) :
    BreakerMoment.Told b.rule (b.listeners.map Listener.tag) ⟨action, b, turned, b.answer? action⟩ := by
  have quiet (same : b.memory.state = turned.breaker.memory.state) (silent : turned.signals = [])
      (unrejected : (b.answer? action).any Answer.isRejected = false) :
      BreakerMoment.Told b.rule (b.listeners.map Listener.tag) ⟨action, b, turned, b.answer? action⟩ :=
    told_quiet same (by rw [unrejected, silent]; rfl)
  cases turning with
  | rejected opened early =>
    have rejected : (b.answer? (.enter _ : BreakerAction ε α)).any Answer.isRejected = true :=
      answer_rejected.mpr ⟨_, rfl, opened, early⟩
    exact told_quiet rfl (by rw [rejected]; rfl)
  | admitted unopened => exact quiet rfl rfl (unrejected_of_free fun opened => absurd opened unopened)
  | probing opened due =>
    have told := turn_signals undisturbed .halfOpen
    exact told_changed opened rfl .probing (unrejected_of_free fun _ => due) ⟨_, opened ▸ told⟩ nofun
  | succeeded unprobing => exact quiet rfl rfl (unrejected_of_other nofun)
  | closing probing =>
    have told := turn_signals (b := b.cleared) undisturbed .closed
    exact told_changed probing rfl .closing (unrejected_of_other nofun) ⟨_, probing ▸ told⟩ nofun
  | counted => exact quiet rfl rfl (unrejected_of_other nofun)
  | @opening error finished unopened enough =>
    have told := turn_signals (b := b.marked finished) undisturbed .opened
    by_cases closed : b.memory.state = .closed
    · have exactly : b.grown = b.rule.threshold.toNat := by
        have few : b.memory.failures < b.rule.threshold.toNat := Nat.lt_of_not_le (mt reached.mp (by simp [closed]))
        have many := enough closed
        unfold grown at many ⊢
        omega
      exact told_changed closed rfl .opening (unrejected_of_other nofun) ⟨_, closed ▸ told⟩
        fun _ => ⟨Nat.le_of_eq exactly.symm, fun _ => exactly⟩
    · have probing : b.memory.state = .halfOpen := by
        cases state : b.memory.state <;> simp_all
      exact told_changed probing rfl .reopening (unrejected_of_other nofun) ⟨_, probing ▸ told⟩
        fun _ => ⟨BreakerUse.grown_reached (reached.mpr closed), nofun⟩
  | panicked => exact quiet rfl rfl (unrejected_of_other nofun)
  | reset closed => exact quiet closed rfl (unrejected_of_other nofun)
  | forced unclosed =>
    have told := turn_signals undisturbed .closed
    cases state : b.memory.state with
    | closed => exact absurd state unclosed
    | halfOpen => exact told_changed state rfl .closing (unrejected_of_other nofun) ⟨_, state ▸ told⟩ nofun
    | opened => exact told_changed state rfl (.forcing rfl) (unrejected_of_other nofun) ⟨_, state ▸ told⟩ nofun
  | unwound unclosed panics => exact absurd panics (by simp [turn_returns undisturbed])
  | listening | unlistening | swaying => exact quiet rfl rfl (unrejected_of_other nofun)

theorem same_change (name : String) (source target s t : BreakerState) :
    Count.same (.stateChanged name source.text target.text) (.stateChanged name s.text t.text) =
      ((source, target) == (s, t)) := by
  have apart : name ++ source.text ++ target.text = name ++ s.text ++ t.text ↔ source = s ∧ target = t := by
    rw [String.append_assoc, String.append_assoc, String.append_right_inj]
    cases source <;> cases target <;> cases s <;> cases t <;> decide
  rw [Count.same, Bool.eq_iff_iff, Bool.and_eq_true_iff, beq_iff_eq, beq_iff_eq, beq_iff_eq, Prod.mk.injEq]
  exact (and_iff_right rfl).trans apart

theorem announcement_counts (name : String) (rule : Rule) (tags : List String) (source target : BreakerState)
    (failures logged : Nat) : (telemetry name (announcement rule tags source target failures logged)).counts =
      [.stateChanged name source.text target.text] := by
  simp [telemetry, announcement, List.filterMap_append, List.filterMap_map]

theorem growth_append (name : String) (first second : List Signal) (counter : Count) :
    growth name (first ++ second) counter = growth name first counter + growth name second counter := by
  rw [growth, growth, growth, ← List.countP_append]
  exact congrArg _ (List.filterMap_append ..)

end Breaker

namespace BreakerMoment

variable {rule : Rule} {tags : List String} {m : BreakerMoment ε α} {past : List (BreakerMoment ε α)}

theorem told_growth (told : m.Told rule tags) (name : String) (source target : BreakerState) :
    Breaker.growth name m.turned.signals (.stateChanged name source.text target.text) =
      if m.change? = some (source, target) then 1 else 0 := by
  cases changed : m.change? with
  | none =>
    rw [told.quiet changed]
    cases m.isRejected <;> rfl
  | some change =>
    obtain ⟨s, t⟩ := change
    obtain ⟨_, _, logged, announced⟩ := told.changed s t changed
    rw [announced, Breaker.growth, Breaker.announcement_counts, List.countP_singleton, Breaker.same_change]
    exact if_congr (by rw [beq_iff_eq, Option.some.injEq, eq_comm]) rfl rfl

theorem told_rejections (told : m.Told rule tags) (name : String) :
    Breaker.growth name m.turned.signals (.callRejected name) = if m.isRejected then 1 else 0 := by
  cases changed : m.change? with
  | none =>
    rw [told.quiet changed]
    cases m.isRejected with
    | false => rfl
    | true => simp [Breaker.growth, Breaker.telemetry, Count.same]
  | some change =>
    obtain ⟨_, unrejected, logged, announced⟩ := told.changed _ _ changed
    rw [announced, Breaker.growth, Breaker.announcement_counts, unrejected]
    rfl

theorem growth_changes (told : ∀ m ∈ past, ∃ tags, m.Told rule tags) (name : String) (source target : BreakerState) :
    Breaker.growth name (signals past) (.stateChanged name source.text target.text) =
      (changes past).count (source, target) := by
  induction past with
  | nil => rfl
  | cons m rest ih =>
    obtain ⟨tags, here⟩ := told m List.mem_cons_self
    have others := ih fun m member => told m (List.mem_cons_of_mem _ member)
    rw [signals, List.flatMap_cons, Breaker.growth_append, told_growth here]
    rw [signals] at others
    rw [others, changes, changes, List.filterMap_cons]
    cases m.change? with
    | none => simp
    | some change => simp [List.count_cons, Nat.add_comm]

theorem growth_rejections (told : ∀ m ∈ past, ∃ tags, m.Told rule tags) (name : String) :
    Breaker.growth name (signals past) (.callRejected name) = past.countP isRejected := by
  induction past with
  | nil => rfl
  | cons m rest ih =>
    obtain ⟨tags, here⟩ := told m List.mem_cons_self
    have others := ih fun m member => told m (List.mem_cons_of_mem _ member)
    rw [signals] at others
    rw [signals, List.flatMap_cons, Breaker.growth_append, told_rejections here, others, List.countP_cons, Nat.add_comm]

end BreakerMoment

namespace BreakerUse

open BreakerMoment (registered signals changes isRejected)

variable {rule : Rule} {b : Breaker} {s t : BreakerUse} {action : BreakerAction ε α} {m : BreakerMoment ε α}
  {past : List (BreakerMoment ε α)}

structure PanicFree (past : List (BreakerMoment ε α)) (s : BreakerUse) : Prop where
  undisturbed : s.breaker.Undisturbed
  returned : ∀ m ∈ past, m.turned.unwound = false
  registered : s.breaker.listeners.map Listener.tag = registered past
  walk : BreakerState.Walk .closed (changes past) s.breaker.memory.state

theorem step_panicFree (free : PanicFree past s) (returning : m.action.ListenersReturn) (stepped : s.step? action = some (m, t)) :
    PanicFree (past ++ [m]) t := by
  obtain ⟨_, rfl, rfl⟩ := step_inv stepped
  have turning := Breaker.act_turning s.breaker action
  refine ⟨Breaker.turning_undisturbed free.undisturbed returning turning, ?_, ?_, ?_⟩
  · intro other member
    rcases List.mem_append.mp member with old | new
    · exact free.returned other old
    · cases List.mem_singleton.mp new
      exact Breaker.turning_returns free.undisturbed turning
  · rw [registered, List.foldl_append]
    rw [Breaker.turning_registers turning, free.registered]
    rfl
  · have walk := free.walk
    rw [changes, List.filterMap_append]
    by_cases same : s.breaker.memory.state = (s.breaker.act action).breaker.memory.state
    · simpa [BreakerMoment.change?, same, changes] using same ▸ walk
    · simpa [BreakerMoment.change?, same, changes] using walk.concat (s.breaker.act action).breaker.memory.state

theorem runs_panicFree (built : Breaker.ofRule rule = .ok b) (run : Runs (start b) past s)
    (returning : ∀ m ∈ past, m.action.ListenersReturn) : PanicFree past s := by
  obtain ⟨rfl, _, _⟩ := Breaker.ofRule_eq built
  refine runs_keep (P := fun past s => (∀ m ∈ past, m.action.ListenersReturn) → PanicFree past s) ?_ ?_ run returning
  · intro _
    have undisturbed : Breaker.Undisturbed ⟨rule, .initial, []⟩ := List.forall_mem_nil _
    exact ⟨undisturbed, List.forall_mem_nil _, rfl, .nil⟩
  · intro past s action m t free stepped returning
    exact step_panicFree (free fun m member => returning m (List.mem_append_left _ member))
      (returning m (List.mem_append_right _ List.mem_cons_self)) stepped

theorem relapsed_unwound (relapsed : BreakerMoment.relapsed past = true) : ∃ m ∈ past, m.turned.unwound = true := by
  obtain ⟨m, found, cut⟩ := (Option.any_eq_true _ _).mp relapsed
  exact ⟨m, List.mem_reverse.mp (List.mem_of_find?_eq_some found), (Bool.and_eq_true_iff.mp cut).2⟩

theorem runs_told {earlier later : List (BreakerMoment ε α)} (built : Breaker.ofRule rule = .ok b)
    (run : Runs (start b) (earlier ++ m :: later) s) (returning : ∀ other ∈ earlier ++ m :: later, other.action.ListenersReturn) :
    m.Told rule (registered earlier) := by
  obtain ⟨before, after, action, through, stepped⟩ := runs_at run
  have free := runs_panicFree built through fun other member => returning other (List.mem_append_left _ member)
  have sound := runs_sound built through
  obtain ⟨admitted, rfl, _⟩ := step_inv stepped
  have steady : BreakerMoment.relapsed earlier = false := by
    rw [Bool.eq_false_iff]
    intro relapsed
    obtain ⟨m, member, panicked⟩ := relapsed_unwound relapsed
    exact absurd panicked (by simp [free.returned m member])
  have reached := sound.reached
  simp only [steady, Bool.false_eq_true, or_false] at reached
  have waits : ∀ attempt finished, action = .leave attempt finished → before.breaker.memory.state ≠ .opened := by
    rintro attempt finished rfl
    exact sound.unopened admitted
  have bound := sound.bound
  subst bound
  rw [← free.registered]
  exact Breaker.turning_told free.undisturbed reached waits (Breaker.act_turning _ action)

-- The path can be read off the notifications, and the state off the counters.
theorem signals_replay_path (built : Breaker.ofRule rule = .ok b) (run : Runs (start b) past s)
    (returning : ∀ m ∈ past, m.action.ListenersReturn) :
    let grown source target := Breaker.growth rule.name (signals past) (.stateChanged rule.name source.text target.text)
    BreakerState.Walk .closed (changes past) s.breaker.memory.state ∧
      (∀ earlier m later, past = earlier ++ m :: later → m.Told rule (registered earlier)) ∧
      (∀ source target, grown source target = (changes past).count (source, target)) ∧
      (∀ state, ((BreakerState.every.map fun source => grown source state).sum : Int) -
          (BreakerState.every.map fun target => grown state target).sum =
        (if s.breaker.memory.state = state then 1 else 0) - (if BreakerState.closed = state then 1 else 0)) ∧
      Breaker.growth rule.name (signals past) (.callRejected rule.name) = past.countP isRejected := by
  have walk := (runs_panicFree built run returning).walk
  have told : ∀ earlier m later, past = earlier ++ m :: later → m.Told rule (registered earlier) := by
    rintro earlier m later rfl
    exact runs_told built run returning
  have each : ∀ m ∈ past, ∃ tags, m.Told rule tags := by
    intro m member
    obtain ⟨earlier, later, split⟩ := List.append_of_mem member
    exact ⟨_, told earlier m later split⟩
  have grown := BreakerMoment.growth_changes each rule.name
  refine ⟨walk, told, grown, ?_, BreakerMoment.growth_rejections each rule.name⟩
  intro state
  simp only [grown]
  rw [BreakerState.count_entries, BreakerState.count_exits]
  exact walk.balance state

-- One listener is there from the start and once more later, another comes with it; both are sent away while a
-- probe runs, and the second comes back before it panics. The next probe fails, and a reset closes the breaker.
def watched : Breaker := ⟨⟨"store", 2, 100⟩, .initial, []⟩

def log : Listener := ⟨"log", fun _ => false⟩
def mail : Listener := ⟨"mail", fun _ => false⟩

def watchedPath : List (BreakerAction Unit Unit) :=
  .listen [log] :: failing 10 ++ failing 20 ++ [.listen [mail, log], .enter 50, .enter 120, .unlisten, .listen [mail],
    .leave .panicked 121] ++ failing 131 ++ [.enter 132, .sway fun _ _ => false, .reset, .enter 140, .leave (.returned ()) 141]

def watchedMoments : List (BreakerMoment Unit Unit) × BreakerUse :=
  (replay? watchedPath (start watched)).getD ([], start watched)

theorem watchedPath_runs : Runs (start watched) watchedMoments.1 watchedMoments.2 := by
  have replayed : replay? watchedPath (start watched) = some watchedMoments := rfl
  exact runs_of_replay replayed

theorem watchedPath_returning : ∀ m ∈ watchedMoments.1, m.action.ListenersReturn := by
  intro m member
  have acted : watchedMoments.1.map BreakerMoment.action = watchedPath := rfl
  have among : m.action ∈ watchedPath := acted ▸ List.mem_map_of_mem member
  have each : ∀ action ∈ watchedPath, action.ListenersReturn := by
    simp [watchedPath, failing, BreakerAction.ListenersReturn, log, mail]
  exact each m.action among

theorem watched_path_replayed : Breaker.ofRule ⟨"store", 2, 100⟩ = .ok watched ∧
    Runs (start watched) watchedMoments.1 watchedMoments.2 ∧ (∀ m ∈ watchedMoments.1, m.action.ListenersReturn) ∧
    BreakerState.Walk .closed [(.closed, .opened), (.opened, .halfOpen), (.halfOpen, .opened), (.opened, .closed)] .closed ∧
    Breaker.growth "store" (signals watchedMoments.1) (.stateChanged "store" "HalfOpen" "Open") = 1 ∧
    Breaker.growth "store" (signals watchedMoments.1) (.callRejected "store") = 2 ∧
    ∀ earlier m later, watchedMoments.1 = earlier ++ m :: later → m.Told ⟨"store", 2, 100⟩ (registered earlier) := by
  have built : Breaker.ofRule ⟨"store", 2, 100⟩ = .ok watched := rfl
  have replays := signals_replay_path built watchedPath_runs watchedPath_returning
  refine ⟨built, watchedPath_runs, watchedPath_returning, replays.1, ?_, replays.2.2.2.2.trans rfl, replays.2.1⟩
  exact (replays.2.2.1 .halfOpen .opened).trans rfl

end BreakerUse
end GuardedWork
