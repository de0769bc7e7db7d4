import Mathlib.Algebra.BigOperators.Group.List.Basic
import Mathlib.Algebra.GroupWithZero.Nat
import Mathlib.Data.List.Nodup
import ProxySync.Metrics.Sample
import ProxySync.Proofs.Sync.Keeping
import ProxySync.Proofs.Sync.Trace

/-!
# What the counters account for

Each sample counts one event (`counter_eq_count`). What a run counts agrees
with what is done in it (`Accounted`): every call that changes an entity is
one mutation with the outcome it is answered with, and every reload that the
proxy is asked for is one reload with its result. Steps account for what they
do, so calls do, so runs do (`counters_of_run`).
-/

namespace ProxySync

open ConfigFile Act Trial

/-! ## Samples -/

/-- All outcomes that a call can have. -/
def outcomes : List (Option FaultKind) :=
  [none, some .badData, some .notFound, some .storage, some .sync, some .outOfSync, some .unknown]

/-- Everything that is counted. -/
def Event.all : List Event :=
  ([.frontend, .backend].flatMap fun k => [.save, .merge, .delete].flatMap fun op =>
    outcomes.map (.mutation k op)) ++ [.sync, .reload true, .reload false]

/-- A call with its reply. -/
abbrev Answered := Call × Except ServiceFault Reply

/-- The call is of this kind and operation, and ended with this outcome. -/
def Answered.isCounted (k : Kind) (op : Operation) (o : Option FaultKind) (a : Answered) : Bool :=
  a.1.change? = some (k, op) ∧ outcome a.2 = o

/-- What was counted is what was done: each change that was answered, and each
reload that the proxy was asked for. -/
structure Accounted (answered : List Answered) (uses : List Use) (events : List Event) : Prop where
  mutations : ∀ k op o,
    events.count (.mutation k op o) = answered.countP (Answered.isCounted k op o)
  reloads : ∀ b, events.count (.reload b) = uses.count (.reload, b)

variable {answered answered' : List Answered} {uses uses' : List Use} {events events' : List Event}
  {c : Call} {r : Except ServiceFault Reply}

theorem Accounted.append (h : Accounted answered uses events)
    (h' : Accounted answered' uses' events') :
    Accounted (answered ++ answered') (uses ++ uses') (events' ++ events) where
  mutations k op o := by
    rw [List.count_append, List.countP_append, h.mutations, h'.mutations, Nat.add_comm]
  reloads b := by
    rw [List.count_append, List.count_append, h.reloads, h'.reloads, Nat.add_comm]

/-- Since the scene `s₀` the calls `answered` have been made, and what was
counted accounts for them. -/
def Accounts (s₀ : Scene Trial) (answered : List Answered) (s : Scene Trial) : Prop :=
  ∃ uses events, s = s₀.after uses events ∧ Accounted answered uses events

variable {s₀ s s' : Scene Trial} {template : Template}

theorem Accounts.after (h : Accounts s₀ answered s) (h' : Accounted answered' uses events) :
    Accounts s₀ (answered ++ answered') (s.after uses events) := by
  obtain ⟨uses₀, events₀, rfl, haccounted⟩ := h
  exact ⟨uses₀ ++ uses, events ++ events₀, by simp, haccounted.append h'⟩

end ProxySync
