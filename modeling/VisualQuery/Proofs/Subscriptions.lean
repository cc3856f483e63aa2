import Mathlib.Data.List.Pairwise
import Mathlib.Data.List.Infix
import VisualQuery.Bus

/-!
# Who is told of an event

Listeners come and go while events are announced. Who is told of an event, and in which order, is a
question about the whole history of the bus: which of the listeners that ever subscribed are still
there, and since when. `SubscribedAt` reads this off the history. `Bus.Serves` says what follows for
the next subscription, for the end of one, and for the next event, and `Bus.after_serves` that it
holds after every history.

One invariant carries everything: the handles of the subscriptions increase in the order of the
list and stay below the counter (`Bus.Numbered`). So a handle is never used again, it is found at
one place of the list at most, and of two subscriptions the one with the greater handle came later
(`SubscribedAt.lt_of_handle_lt`).

Which listeners fail at an event is left open here. A listener may fail at any event and need not
fail at the next one of the same kind; each of them is called at most once for one event, so all
that counts is which ones would fail at this one (`Bus.calls`). The bus makes these calls for the
listeners that are known to fail at events of the kind (`Bus.Serves.emit_eq`).
-/

namespace VisualQuery

/-- What happens to the listeners of a query. -/
inductive BusStep where
  /-- A listener subscribes. -/
  | subscribe (listener : Listener)
  /-- The subscription with a handle is ended, if there is one. -/
  | unsubscribe (handle : Nat)
  /-- The listeners are told of an event. -/
  | emit (event : Event)

namespace Bus

/-- The listeners after a step. Telling them of an event changes nothing about them. -/
def step (bus : Bus) : BusStep → Bus
  | .subscribe listener => (bus.subscribe listener).2
  | .unsubscribe handle => (bus.unsubscribe handle).2
  | .emit _ => bus

/-- The listeners after a history that starts without any. -/
def after (history : List BusStep) : Bus := history.foldl step .empty

/-- The handle that a step returns, if it is a subscription. -/
def handle? (bus : Bus) : BusStep → Option Nat
  | .subscribe listener => some (bus.subscribe listener).1
  | .unsubscribe _ => none
  | .emit _ => none

/-- The handles that are returned in a history, in order. -/
def issuedFrom (bus : Bus) : List BusStep → List Nat
  | [] => []
  | s :: rest => (bus.handle? s).toList ++ issuedFrom (bus.step s) rest

/-- The handles that are returned in a history that starts without listeners. -/
def issued (history : List BusStep) : List Nat := issuedFrom .empty history

end Bus

/-! ### Histories -/

/-- **A subscription that holds at the end of a history**: it was made at a place of it, and not
ended behind that place. -/
structure SubscribedAt (history : List BusStep) (i : Nat) (s : Subscription) : Prop where
  /-- The listener subscribed at this place. -/
  made : history[i]? = some (.subscribe s.listener)
  /-- This is the handle that was returned. -/
  handle : ((Bus.after (history.take i)).subscribe s.listener).1 = s.handle
  /-- The subscription was not ended later. -/
  kept : .unsubscribe s.handle ∉ history.drop (i + 1)

/-- Whether the one of two subscriptions was made after the other, both of which hold. -/
def MoreRecent (history : List BusStep) (s t : Subscription) : Prop :=
  ∃ i j, SubscribedAt history i s ∧ SubscribedAt history j t ∧ j < i

namespace Bus

/-- **What the listeners of a history can rely on.** -/
structure Serves (history : List BusStep) (bus : Bus) : Prop where
  /-- No handle was returned twice. -/
  issued_nodup : (issued history).Nodup
  /-- The handles are numbers below the count of subscriptions. So a word holds them all, if there
  are not more subscriptions than words. -/
  issued_lt : ∀ handle ∈ issued history, handle < (issued history).length
  /-- The next handle is that count, and so it is a new one. -/
  next : ∀ listener, (bus.subscribe listener).1 = (issued history).length
  /-- The bus lists the subscriptions that hold. -/
  listed : ∀ s, s ∈ bus.subscriptions ↔ ∃ i, SubscribedAt history i s
  /-- The end of a subscription is confirmed if and only if one with the handle holds. -/
  unsubscribe_iff : ∀ handle, (bus.unsubscribe handle).1 = true ↔
    ∃ i s, SubscribedAt history i s ∧ s.handle = handle
  /-- That one is taken out of the list and nothing else changes. -/
  unsubscribe_eq : ∀ handle, (bus.unsubscribe handle).2 =
    { bus with subscriptions := bus.subscriptions.eraseP (·.handle = handle) }
  /-- No listener is called twice for one event. -/
  calls_nodup : ∀ fails, (bus.calls fails).Nodup
  /-- The listeners are called in order, the most recent subscriber first. -/
  calls_sorted : ∀ fails, (bus.calls fails).Pairwise (MoreRecent history)
  /-- A listener is called if and only if its subscription holds and no more recent subscriber
  fails. -/
  mem_calls_iff : ∀ fails s, s ∈ bus.calls fails ↔
    (∃ i, SubscribedAt history i s) ∧ ∀ t, MoreRecent history t s → fails t = false
  /-- These are the calls that the bus makes for an event, and it reports whether none failed. -/
  emit_eq : ∀ event : Event,
    let fails := fun s : Subscription => decide (s.listener.failsAt = some event.kind)
    bus.emit event =
      ((bus.calls fails).map fun s => ⟨s.handle, s.listener, event⟩,
        (bus.calls fails).all (!fails ·))

/-! ### Steps -/

theorem after_append_singleton (history : List BusStep) (s : BusStep) :
    after (history ++ [s]) = (after history).step s := by
  rw [after, List.foldl_append]
  rfl

theorem issuedFrom_append (bus : Bus) (as bs : List BusStep) :
    issuedFrom bus (as ++ bs) = issuedFrom bus as ++ issuedFrom (as.foldl step bus) bs := by
  induction as generalizing bus with
  | nil => rfl
  | cons s as ih =>
    rw [List.cons_append, issuedFrom, issuedFrom, ih, List.append_assoc]
    rfl

theorem issued_append_singleton (history : List BusStep) (s : BusStep) :
    issued (history ++ [s]) = issued history ++ ((after history).handle? s).toList := by
  rw [issued, issuedFrom_append, issuedFrom, issuedFrom, List.append_nil]
  rfl

/-- **The handles increase**, and the counter is above all of them. -/
structure Numbered (bus : Bus) : Prop where
  /-- The subscriptions are listed in the order of their handles. -/
  increasing : bus.subscriptions.Pairwise (·.handle < ·.handle)
  /-- The next handle is greater. -/
  below : ∀ s ∈ bus.subscriptions, s.handle < bus.nextHandle

theorem Numbered.empty : Numbered .empty := ⟨.nil, fun _ hs => absurd hs List.not_mem_nil⟩

theorem Numbered.step {bus : Bus} (h : bus.Numbered) (s : BusStep) : (bus.step s).Numbered := by
  cases s with
  | subscribe listener =>
    constructor
    · -- the new handle is the counter
      refine List.pairwise_append.mpr ⟨h.increasing, List.pairwise_singleton _ _, ?_⟩
      intro a ha b hb
      rw [List.mem_singleton.mp hb]
      exact h.below a ha
    · intro a ha
      rcases List.mem_append.mp ha with ha | ha
      · exact Nat.lt_succ_of_lt (h.below a ha)
      · rw [List.mem_singleton.mp ha]
        exact Nat.lt_succ_self _
  | unsubscribe handle =>
    exact ⟨h.increasing.filter _, fun a ha => h.below a (List.mem_of_mem_filter ha)⟩
  | emit event => exact h

theorem after_numbered (history : List BusStep) : (after history).Numbered := by
  induction history using List.reverseRecOn with
  | nil => exact .empty
  | append_singleton history s ih =>
    rw [after_append_singleton]
    exact ih.step s

/-- The counter counts the subscriptions, and each handle is the count at its time. -/
theorem issued_eq (history : List BusStep) :
    issued history = List.range (after history).nextHandle := by
  induction history using List.reverseRecOn with
  | nil => rfl
  | append_singleton history s ih =>
    rw [issued_append_singleton, after_append_singleton, ih]
    cases s with
    | subscribe listener => exact List.range_succ.symm
    | unsubscribe handle => exact List.append_nil _
    | emit event => exact List.append_nil _

theorem length_issued (history : List BusStep) :
    (issued history).length = (after history).nextHandle := by
  rw [issued_eq, List.length_range]

theorem nextHandle_le_foldl (bus : Bus) (steps : List BusStep) :
    bus.nextHandle ≤ (steps.foldl step bus).nextHandle := by
  induction steps generalizing bus with
  | nil => exact le_refl _
  | cons s steps ih =>
    have hstep : bus.nextHandle ≤ (bus.step s).nextHandle := by
      cases s with
      | subscribe listener => exact Nat.le_succ _
      | unsubscribe handle => exact le_refl _
      | emit event => exact le_refl _
    exact hstep.trans (ih _)

theorem nextHandle_take_le (history : List BusStep) {i j : Nat} (h : i ≤ j) :
    (after (history.take i)).nextHandle ≤ (after (history.take j)).nextHandle := by
  have hsplit : history.take j = history.take i ++ (history.take j).drop i := by
    conv_lhs => rw [← List.take_append_drop i (history.take j), List.take_take, min_eq_left h]
  rw [hsplit, after, after, List.foldl_append]
  exact nextHandle_le_foldl _ _

end Bus

open Bus

/-! ### What holds behind one more step -/

section SubscribedAt

variable {history : List BusStep} {step : BusStep} {i j : Nat} {s t : Subscription}

/-- A subscription holds behind one more step if it held before and is not ended by it, or if it is
made by it. -/
theorem subscribedAt_append_singleton : SubscribedAt (history ++ [step]) i s ↔
    (SubscribedAt history i s ∧ step ≠ .unsubscribe s.handle) ∨
      (i = history.length ∧ step = .subscribe s.listener ∧
        (after history).nextHandle = s.handle) := by
  -- the place is an old one, the new one, or beyond the history
  rcases lt_trichotomy i history.length with hi | rfl | hi
  · have htake : (history ++ [step]).take i = history.take i :=
      List.take_append_of_le_length hi.le
    have hdrop : (history ++ [step]).drop (i + 1) = history.drop (i + 1) ++ [step] :=
      List.drop_append_of_le_length hi
    have hget : (history ++ [step])[i]? = history[i]? := List.getElem?_append_left hi
    constructor
    · rintro ⟨hmade, hhandle, hkept⟩
      rw [hdrop, List.mem_append, List.mem_singleton, not_or] at hkept
      exact .inl ⟨⟨hget ▸ hmade, htake ▸ hhandle, hkept.1⟩, Ne.symm hkept.2⟩
    · rintro (⟨⟨hmade, hhandle, hkept⟩, hstep⟩ | ⟨rfl, -, -⟩)
      · refine ⟨hget.trans hmade, by rwa [htake], ?_⟩
        rw [hdrop, List.mem_append, List.mem_singleton, not_or]
        exact ⟨hkept, Ne.symm hstep⟩
      · exact absurd hi (lt_irrefl _)
  · constructor
    · rintro ⟨hmade, hhandle, -⟩
      rw [List.getElem?_concat_length] at hmade
      rw [List.take_left' rfl] at hhandle
      exact .inr ⟨rfl, Option.some.inj hmade, hhandle⟩
    · rintro (⟨⟨hmade, -, -⟩, -⟩ | ⟨-, rfl, hhandle⟩)
      · rw [List.getElem?_eq_none (le_refl _)] at hmade
        exact absurd hmade.symm (Option.some_ne_none _)
      · refine ⟨List.getElem?_concat_length, by rwa [List.take_left' rfl], ?_⟩
        rw [List.drop_eq_nil_of_le (by simp)]
        exact List.not_mem_nil
  · constructor
    · rintro ⟨hmade, -, -⟩
      rw [List.getElem?_eq_none (by simp; omega)] at hmade
      exact absurd hmade.symm (Option.some_ne_none _)
    · rintro (⟨⟨hmade, -, -⟩, -⟩ | ⟨rfl, -, -⟩)
      · rw [List.getElem?_eq_none hi.le] at hmade
        exact absurd hmade.symm (Option.some_ne_none _)
      · exact absurd hi (lt_irrefl _)

/-- **The bus lists the subscriptions that hold.** -/
theorem mem_subscriptions_after :
    s ∈ (after history).subscriptions ↔ ∃ i, SubscribedAt history i s := by
  -- from the end: what the last step does to the list is what it does to the subscriptions
  induction history using List.reverseRecOn with
  | nil =>
    refine ⟨fun hs => absurd hs List.not_mem_nil, ?_⟩
    rintro ⟨i, hmade, -, -⟩
    exact absurd hmade.symm (Option.some_ne_none _)
  | append_singleton history step ih =>
    have hlast : (∃ i, SubscribedAt (history ++ [step]) i s) ↔
        (s ∈ (after history).subscriptions ∧ step ≠ .unsubscribe s.handle) ∨
          (step = .subscribe s.listener ∧ (after history).nextHandle = s.handle) := by
      simp only [subscribedAt_append_singleton, exists_or, exists_and_right, exists_eq, true_and,
        ih]
    rw [hlast, after_append_singleton]
    -- a subscription adds one, a cancellation takes its handle out, an event changes nothing
    cases step with
    | subscribe listener =>
      show s ∈ _ ++ [_] ↔ _
      rw [List.mem_append, List.mem_singleton]
      refine or_congr (iff_self_and.mpr fun _ => BusStep.noConfusion) ⟨?_, ?_⟩
      · rintro rfl
        exact ⟨rfl, rfl⟩
      · rintro ⟨hlistener, hhandle⟩
        rw [hhandle, BusStep.subscribe.inj hlistener]
    | unsubscribe handle =>
      show s ∈ List.filter _ _ ↔ _
      rw [List.mem_filter, decide_eq_true_iff]
      constructor
      · rintro ⟨hs, hne⟩
        exact .inl ⟨hs, fun heq => hne (BusStep.unsubscribe.inj heq).symm⟩
      · rintro (⟨hs, hne⟩ | ⟨heq, -⟩)
        · exact ⟨hs, fun heq => hne (congrArg _ heq.symm)⟩
        · exact BusStep.noConfusion heq
    | emit event =>
      constructor
      · exact fun hs => .inl ⟨hs, BusStep.noConfusion⟩
      · rintro (⟨hs, -⟩ | ⟨heq, -⟩)
        · exact hs
        · exact BusStep.noConfusion heq

/-! ### Handles and time -/

/-- The handle of a subscription is the count of the subscriptions before it. -/
theorem SubscribedAt.handle_eq (h : SubscribedAt history i s) :
    s.handle = (after (history.take i)).nextHandle := h.handle.symm

/-- A greater handle was returned later. -/
theorem SubscribedAt.lt_of_handle_lt (hs : SubscribedAt history i s)
    (ht : SubscribedAt history j t) (h : s.handle < t.handle) : i < j := by
  by_contra hle
  have hmono := nextHandle_take_le history (Nat.le_of_not_lt hle)
  rw [← hs.handle_eq, ← ht.handle_eq] at hmono
  exact absurd h (Nat.not_lt.mpr hmono)

/-- A later subscription has a greater handle: the one before it has moved the counter. -/
theorem SubscribedAt.handle_lt_of_lt (hs : SubscribedAt history i s)
    (ht : SubscribedAt history j t) (h : i < j) : s.handle < t.handle := by
  have hnext : (after (history.take (i + 1))).nextHandle =
      (after (history.take i)).nextHandle + 1 := by
    rw [List.take_add_one, hs.made, Option.toList_some, after_append_singleton]
    rfl
  have hmono := nextHandle_take_le history (Nat.succ_le_of_lt h)
  rw [hnext, ← hs.handle_eq, ← ht.handle_eq] at hmono
  exact hmono

/-- Of two subscriptions the one with the greater handle is the more recent one. -/
theorem moreRecent_iff : MoreRecent history s t ↔
    s ∈ (after history).subscriptions ∧ t ∈ (after history).subscriptions ∧
      t.handle < s.handle := by
  rw [mem_subscriptions_after, mem_subscriptions_after]
  constructor
  · rintro ⟨i, j, hs, ht, hlt⟩
    exact ⟨⟨i, hs⟩, ⟨j, ht⟩, ht.handle_lt_of_lt hs hlt⟩
  · rintro ⟨⟨i, hs⟩, ⟨j, ht⟩, hlt⟩
    exact ⟨i, j, hs, ht, ht.lt_of_handle_lt hs hlt⟩

end SubscribedAt

/-! ### Calls -/

namespace Bus

variable {fails : Subscription → Bool} {ss : List Subscription} {s : Subscription}

theorem initial_called (fails : Subscription → Bool) (ss : List Subscription) :
    called fails ss <+: ss := by
  induction ss with
  | nil => exact List.prefix_refl []
  | cons a ss ih =>
    rw [called]
    split
    · exact ⟨ss, rfl⟩
    · exact List.prefix_cons_inj a |>.mpr ih

/-- In a list in which the handles decrease, a listener is called if nobody before it fails, that
is, nobody with a greater handle. -/
theorem mem_called_iff (h : ss.Pairwise fun a b => b.handle < a.handle) :
    s ∈ called fails ss ↔ s ∈ ss ∧ ∀ t ∈ ss, s.handle < t.handle → fails t = false := by
  induction ss with
  | nil => exact ⟨fun hs => absurd hs List.not_mem_nil, fun hs => absurd hs.1 List.not_mem_nil⟩
  | cons a ss ih =>
    obtain ⟨hfirst, hrest⟩ := List.pairwise_cons.mp h
    rw [called]
    cases ha : fails a with
    | true =>
      rw [if_pos rfl, List.mem_singleton]
      constructor
      · rintro rfl
        refine ⟨List.mem_cons_self, fun t ht hlt => ?_⟩
        -- nobody stands before the first one
        rcases List.mem_cons.mp ht with rfl | ht
        · exact absurd hlt (lt_irrefl _)
        · exact absurd hlt (hfirst t ht).asymm
      · rintro ⟨hs, hnone⟩
        refine (List.mem_cons.mp hs).resolve_right fun hs => ?_
        rw [hnone a List.mem_cons_self (hfirst s hs)] at ha
        exact Bool.false_ne_true ha
    | false =>
      rw [if_neg Bool.false_ne_true, List.mem_cons, List.mem_cons, ih hrest]
      constructor
      · rintro (rfl | ⟨hs, hnone⟩)
        · refine ⟨.inl rfl, fun t ht hlt => ?_⟩
          rcases List.mem_cons.mp ht with rfl | ht
          · exact ha
          · exact absurd hlt (hfirst t ht).asymm
        · refine ⟨.inr hs, fun t ht hlt => ?_⟩
          rcases List.mem_cons.mp ht with rfl | ht
          · exact ha
          · exact hnone t ht hlt
      · rintro ⟨rfl | hs, hnone⟩
        · exact .inl rfl
        · exact .inr ⟨hs, fun t ht => hnone t (List.mem_cons_of_mem _ ht)⟩

/-! ### The end of a subscription -/

/-- At most one subscription has the handle. -/
theorem filter_ne_eq_eraseP (h : ss.Pairwise (·.handle < ·.handle)) (handle : Nat) :
    ss.filter (·.handle ≠ handle) = ss.eraseP (·.handle = handle) := by
  induction ss with
  | nil => rfl
  | cons a ss ih =>
    obtain ⟨hfirst, hrest⟩ := List.pairwise_cons.mp h
    by_cases ha : a.handle = handle
    · -- all others have greater handles
      have hothers : ss.filter (·.handle ≠ handle) = ss := by
        refine List.filter_eq_self.mpr fun t ht => decide_eq_true ?_
        exact ha ▸ (hfirst t ht).ne'
      rw [List.filter_cons_of_neg (by simpa using ha), List.eraseP_cons_of_pos (by simpa using ha),
        hothers]
    · rw [List.filter_cons_of_pos (by simpa using ha), List.eraseP_cons_of_neg (by simpa using ha),
        ih hrest]

theorem unsubscribe_confirmed_iff (bus : Bus) (handle : Nat) :
    (bus.unsubscribe handle).1 = true ↔ ∃ s ∈ bus.subscriptions, s.handle = handle := by
  rw [unsubscribe, decide_eq_true_iff, Ne, List.length_filter_eq_length_iff]
  simp

/-! ### After every history -/

/-- **Listeners are told as the history says.** Whatever subscriptions, ends of subscriptions and
events came before: handles are not used twice, the end of a subscription takes out that one only,
and an event reaches the current listeners from the most recent one to the oldest one, each once,
until one fails. -/
theorem after_serves (history : List BusStep) : Serves history (after history) := by
  have hnumbered := after_numbered history
  -- handles are numbered upwards, so the list from its end goes from the most recent one back
  have hdecreasing : (after history).subscriptions.reverse.Pairwise
      fun s t => t.handle < s.handle := List.pairwise_reverse.mpr hnumbered.increasing
  -- the calls are an initial part of that list, which is all the three statements about them need
  have hcalls : ∀ fails, (calls (after history) fails).Pairwise fun s t => t.handle < s.handle :=
    fun fails => hdecreasing.sublist (initial_called fails _).sublist
  have hmem : ∀ fails s, s ∈ calls (after history) fails → s ∈ (after history).subscriptions :=
    fun fails s hs => List.mem_reverse.mp ((initial_called fails _).subset hs)
  constructor
  case issued_nodup =>
    rw [issued_eq]
    exact List.nodup_range
  case issued_lt =>
    intro handle hhandle
    rw [issued_eq, List.mem_range] at hhandle
    rwa [length_issued]
  case next => exact fun _ => (length_issued history).symm
  case listed => exact fun _ => mem_subscriptions_after
  case unsubscribe_iff =>
    intro handle
    rw [unsubscribe_confirmed_iff, exists_comm]
    simp only [mem_subscriptions_after, exists_and_right]
  case unsubscribe_eq =>
    intro handle
    rw [unsubscribe, filter_ne_eq_eraseP hnumbered.increasing]
  case calls_nodup =>
    intro fails
    refine (hcalls fails).imp fun hlt => ?_
    rintro rfl
    exact lt_irrefl _ hlt
  case calls_sorted =>
    intro fails
    refine (hcalls fails).imp_of_mem fun hs ht hlt => ?_
    exact moreRecent_iff.mpr ⟨hmem fails _ hs, hmem fails _ ht, hlt⟩
  case mem_calls_iff =>
    intro fails s
    rw [calls, mem_called_iff hdecreasing, List.mem_reverse, ← mem_subscriptions_after]
    refine and_congr_right fun hs => forall_congr' fun t => ?_
    rw [moreRecent_iff, List.mem_reverse]
    exact ⟨fun hnone ⟨ht, _, hlt⟩ => hnone ht hlt, fun hnone ht hlt => hnone ⟨ht, hs, hlt⟩⟩
  case emit_eq => exact fun _ => rfl

end Bus

end VisualQuery
