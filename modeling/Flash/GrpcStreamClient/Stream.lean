import Mathlib

/-!
# gRPC stream client — the listener registry

The `eventListeners` of `Stream` (`utils/grpc-stream-client/stream.ts`): one list of
registrations `{ listener, options }` per event type.  `addEventListener` appends to it,
`removeEventListener` filters it, and `dispatchEvent` calls every registration of the type and
then removes, through `removeEventListener`, each one whose options object has `once` set.

Listeners and options objects are compared by identity (`!==`), so each is a value of a type with
decidable equality; a boolean option is compared by value.  A listener's body is the callee of a
call the dispatch records; it does not touch the registry.

* `mem_removeEventListener`: what the filter keeps.  A registration goes when its listener is the
  one named, whatever its options — and also when its options are the ones named, whatever its
  listener.
* `not_isOnce_of_mem_dispatchEvent`: after a dispatch no registration of its type has `once` set;
  `not_mem_dispatchEvent_of_once` says what goes with it: every registration of a once
  registration's function, and every one sharing its options object.
* `once_calls_le_adds`: over any run, a once registration is called at most as often as it is
  added, so from the empty registry one `addEventListener` gives at most one call.
* `removal_drops_unrelated_registrations`: a concrete run of each of the two removals that go
  beyond the named registration.
-/

namespace GrpcStreamClient

/-- `StreamEvents`. -/
inductive StreamEvents
  | metadata | data | error | «end» | retry
  deriving DecidableEq, Repr

/-- The `options` of a registration, `boolean | EventListenerOptions`: a boolean, compared by
value, or an options object, compared by identity. -/
inductive ListenerOptions (O : Type)
  | flag (b : Bool)
  | object (o : O)
  deriving DecidableEq, Repr

/-- `GrpcStreamEventsListener`, its `options` `undefined` as `none`. -/
structure GrpcStreamEventsListener (L O : Type) where
  listener : L
  options : Option (ListenerOptions O)
  deriving DecidableEq, Repr

/-- `StreamEventMapA`: the registrations of each event type, in the order they were added. -/
abbrev StreamEventMapA (L O : Type) := StreamEvents → List (GrpcStreamEventsListener L O)

variable {L O : Type}

/-- The `eventListeners` a `Stream` is built with: no registration of any type. -/
def StreamEventMapA.empty : StreamEventMapA L O := fun _ => []

/-- `Stream.addEventListener`. -/
def addEventListener (eventListeners : StreamEventMapA L O) (type : StreamEvents) (listener : L)
    (options : Option (ListenerOptions O)) : StreamEventMapA L O :=
  Function.update eventListeners type (eventListeners type ++ [⟨listener, options⟩])

variable [DecidableEq L] [DecidableEq O]

/-- The test of `removeEventListener`'s filter,
`l.listener !== listener && (l.options === undefined || l.options !== options)`. -/
def keepsListener (listener : L) (options : Option (ListenerOptions O))
    (l : GrpcStreamEventsListener L O) : Bool :=
  l.listener != listener && (l.options == none || l.options != options)

/-- `Stream.removeEventListener`. -/
def removeEventListener (eventListeners : StreamEventMapA L O) (type : StreamEvents)
    (listener : L) (options : Option (ListenerOptions O)) : StreamEventMapA L O :=
  Function.update eventListeners type
    ((eventListeners type).filter (keepsListener listener options))

section Dispatch

-- the `once` property of each options object
variable (once : O → Bool)

/-- `l.options !== undefined && (l.options as { once?: boolean }).once`: a boolean option has no
`once` property. -/
def isOnce : Option (ListenerOptions O) → Bool
  | some (.object o) => once o
  | some (.flag _) => false
  | none => false

/-- `Stream.dispatchEvent`: the registrations called, in order (each with `(this, ev)`), and the
registry once every once registration has been passed to `removeEventListener`. -/
def dispatchEvent (eventListeners : StreamEventMapA L O) (type : StreamEvents) :
    List (GrpcStreamEventsListener L O) × StreamEventMapA L O :=
  let listeners := eventListeners type
  let onceListeners := listeners.filter (fun l => isOnce once l.options)
  (listeners, onceListeners.foldl
    (fun ls l => removeEventListener ls type l.listener l.options) eventListeners)

end Dispatch

/-- A call on the registry: one of its two public methods, or a dispatch (`handleEvent` for the
stream's own events, the timer of `reconnect` for `retry`). -/
inductive StreamCall (L O : Type)
  | addEventListener (type : StreamEvents) (listener : L) (options : Option (ListenerOptions O))
  | removeEventListener (type : StreamEvents) (listener : L)
      (options : Option (ListenerOptions O))
  | dispatchEvent (type : StreamEvents)
  deriving DecidableEq, Repr

section Run

variable (once : O → Bool)

/-- One call: the registry after it, and the registrations it calls, with their type. -/
def StreamCall.step (eventListeners : StreamEventMapA L O) :
    StreamCall L O → StreamEventMapA L O × List (StreamEvents × GrpcStreamEventsListener L O)
  | .addEventListener type listener options =>
    (GrpcStreamClient.addEventListener eventListeners type listener options, [])
  | .removeEventListener type listener options =>
    (GrpcStreamClient.removeEventListener eventListeners type listener options, [])
  | .dispatchEvent type =>
    let r := GrpcStreamClient.dispatchEvent once eventListeners type
    (r.2, r.1.map (type, ·))

/-- A sequence of calls: the registry at the end, and every call of a listener, in order. -/
def run : StreamEventMapA L O → List (StreamCall L O) →
    StreamEventMapA L O × List (StreamEvents × GrpcStreamEventsListener L O)
  | eventListeners, [] => (eventListeners, [])
  | eventListeners, c :: cs =>
    let s := c.step once eventListeners
    let r := run s.1 cs
    (r.1, s.2 ++ r.2)

end Run

/-! ### Adding and removing -/

section Registry

variable {eventListeners : StreamEventMapA L O} {type type' : StreamEvents} {listener : L}
  {options : Option (ListenerOptions O)}

omit [DecidableEq L] [DecidableEq O] in
@[simp] theorem addEventListener_same :
    addEventListener eventListeners type listener options type =
      eventListeners type ++ [⟨listener, options⟩] :=
  Function.update_self ..

omit [DecidableEq L] [DecidableEq O] in
theorem addEventListener_of_ne (h : type' ≠ type) :
    addEventListener eventListeners type listener options type' = eventListeners type' :=
  Function.update_of_ne h ..

@[simp] theorem removeEventListener_same :
    removeEventListener eventListeners type listener options type =
      (eventListeners type).filter (keepsListener listener options) :=
  Function.update_self ..

theorem removeEventListener_of_ne (h : type' ≠ type) :
    removeEventListener eventListeners type listener options type' = eventListeners type' :=
  Function.update_of_ne h ..

theorem keepsListener_eq_true {l : GrpcStreamEventsListener L O} :
    keepsListener listener options l = true ↔
      l.listener ≠ listener ∧ (l.options = none ∨ l.options ≠ options) := by
  simp [keepsListener]

/-- What `removeEventListener` keeps: the registrations of another listener whose options are
`undefined` or not the ones named. -/
theorem mem_removeEventListener {l : GrpcStreamEventsListener L O} :
    l ∈ removeEventListener eventListeners type listener options type ↔
      l ∈ eventListeners type ∧ l.listener ≠ listener ∧ (l.options = none ∨ l.options ≠ options) := by
  rw [removeEventListener_same, List.mem_filter, keepsListener_eq_true]

theorem count_removeEventListener_le (l : GrpcStreamEventsListener L O) (type' : StreamEvents) :
    (removeEventListener eventListeners type listener options type').count l ≤
      (eventListeners type').count l := by
  by_cases h : type' = type
  · subst h
    rw [removeEventListener_same]
    exact List.Sublist.count_le l List.filter_sublist
  · exact Nat.le_of_eq (by rw [removeEventListener_of_ne h])

end Registry

/-! ### Dispatching -/

section Dispatch

variable (once : O → Bool) {eventListeners : StreamEventMapA L O} {type type' : StreamEvents}

/-- Removing the registrations of `xs` one after another keeps, of the type's list, those every
one of the removals keeps. -/
theorem foldl_removeEventListener_same (xs : List (GrpcStreamEventsListener L O)) :
    ∀ eventListeners : StreamEventMapA L O,
      xs.foldl (fun ls l => removeEventListener ls type l.listener l.options) eventListeners type =
        (eventListeners type).filter
          (fun r => xs.all (fun l => keepsListener l.listener l.options r)) := by
  induction xs with
  | nil =>
    intro eventListeners
    simp only [List.foldl_nil, List.all_nil]
    exact (List.filter_eq_self.mpr fun _ _ => rfl).symm
  | cons x xs ih =>
    intro eventListeners
    rw [List.foldl_cons, ih, removeEventListener_same, List.filter_filter]
    congr 1
    funext r
    rw [List.all_cons, Bool.and_comm]

theorem foldl_removeEventListener_of_ne (xs : List (GrpcStreamEventsListener L O))
    (h : type' ≠ type) : ∀ eventListeners : StreamEventMapA L O,
      xs.foldl (fun ls l => removeEventListener ls type l.listener l.options) eventListeners
        type' = eventListeners type' := by
  induction xs with
  | nil => intro eventListeners; rfl
  | cons x xs ih =>
    intro eventListeners
    rw [List.foldl_cons, ih, removeEventListener_of_ne h]

theorem dispatchEvent_of_ne (h : type' ≠ type) :
    (dispatchEvent once eventListeners type).2 type' = eventListeners type' :=
  foldl_removeEventListener_of_ne _ h _

/-- What a dispatch keeps of its type's list: the registrations that every once registration's
own removal keeps. -/
theorem mem_dispatchEvent {r : GrpcStreamEventsListener L O} :
    r ∈ (dispatchEvent once eventListeners type).2 type ↔
      r ∈ eventListeners type ∧ ∀ l ∈ eventListeners type, isOnce once l.options = true →
        keepsListener l.listener l.options r = true := by
  simp only [dispatchEvent, foldl_removeEventListener_same, List.mem_filter, List.all_eq_true,
    and_imp]

/-- The removal a dispatch makes for a once registration `l` takes every registration of `l`'s
function and every one with `l`'s options, not only `l`. -/
theorem not_mem_dispatchEvent_of_once {l r : GrpcStreamEventsListener L O}
    (hl : l ∈ eventListeners type) (hlo : isOnce once l.options = true)
    (hr : r.listener = l.listener ∨ (r.options ≠ none ∧ r.options = l.options)) :
    r ∉ (dispatchEvent once eventListeners type).2 type := by
  intro hmem
  have hkeep := (mem_dispatchEvent once).mp hmem |>.2 l hl hlo
  rw [keepsListener_eq_true] at hkeep
  obtain ⟨hne, hopt⟩ := hkeep
  rcases hr with hr | ⟨hnone, hr⟩
  · exact hne hr
  · exact hopt.elim hnone (fun h => h hr)

/-- After a dispatch no registration of its type has `once` set. -/
theorem not_isOnce_of_mem_dispatchEvent {r : GrpcStreamEventsListener L O}
    (h : r ∈ (dispatchEvent once eventListeners type).2 type) : isOnce once r.options = false := by
  have hr := ((mem_dispatchEvent once).mp h).1
  by_contra hro
  exact not_mem_dispatchEvent_of_once once hr (Bool.not_eq_false _ ▸ hro) (.inl rfl) h

theorem count_dispatchEvent_of_once {r : GrpcStreamEventsListener L O}
    (hro : isOnce once r.options = true) :
    ((dispatchEvent once eventListeners type).2 type).count r = 0 := by
  rw [List.count_eq_zero]
  intro h
  rw [not_isOnce_of_mem_dispatchEvent once h] at hro
  exact Bool.false_ne_true hro

end Dispatch

/-! ### Runs -/

section Run

variable (once : O → Bool) {type : StreamEvents} {r : GrpcStreamEventsListener L O}

/-- One call: the calls of a once registration `r` it makes and the copies of `r` it leaves, less
the copies it adds, are at most the copies there were. -/
theorem step_once_count (eventListeners : StreamEventMapA L O) (c : StreamCall L O)
    (hro : isOnce once r.options = true) :
    (c.step once eventListeners).2.count (type, r) + ((c.step once eventListeners).1 type).count r ≤
      (eventListeners type).count r +
        if c = .addEventListener type r.listener r.options then 1 else 0 := by
  cases c with
  | addEventListener type' listener options =>
    by_cases ht : type = type'
    · -- an add of the type appends one registration, and it is `r` only when the call adds `r`
      subst ht
      have hr : (⟨listener, options⟩ : GrpcStreamEventsListener L O) = r ↔
          StreamCall.addEventListener type listener options =
            .addEventListener type r.listener r.options := by
        cases r
        simp
      simp only [StreamCall.step, addEventListener_same, List.count_nil, List.count_append,
        List.count_singleton, Nat.zero_add, beq_iff_eq, hr]
      omega
    · have hc : StreamCall.addEventListener type' listener options ≠
          .addEventListener type r.listener r.options := by
        simp [Ne.symm ht]
      simp only [StreamCall.step, addEventListener_of_ne ht, List.count_nil, if_neg hc]
      omega
  | removeEventListener type' listener options =>
    simp only [StreamCall.step, List.count_nil, Nat.zero_add, reduceCtorEq, if_false, Nat.add_zero]
    exact count_removeEventListener_le r type
  | dispatchEvent type' =>
    simp only [StreamCall.step, reduceCtorEq, if_false, Nat.add_zero]
    by_cases ht : type = type'
    · -- the dispatch calls each copy of `r` once and leaves none
      subst ht
      rw [count_dispatchEvent_of_once once hro, Nat.add_zero,
        List.count_map_of_injective _ _ (fun a b hab => (Prod.mk.inj hab).2)]
      exact Nat.le_refl _
    · have hcalls : ((dispatchEvent once eventListeners type').1.map (type', ·)).count (type, r) = 0 := by
        rw [List.count_eq_zero]
        intro h
        obtain ⟨_, _, he⟩ := List.mem_map.mp h
        exact ht (Prod.mk.inj he).1.symm
      exact Nat.le_of_eq (by rw [hcalls, Nat.zero_add, dispatchEvent_of_ne once ht])

/-- Over any run, a registration whose options object has `once` set is called at most as often
as it is added (counting the copies there were at the start). -/
theorem once_calls_le_adds (cs : List (StreamCall L O)) (hro : isOnce once r.options = true) :
    ∀ eventListeners : StreamEventMapA L O,
      (run once eventListeners cs).2.count (type, r) + ((run once eventListeners cs).1 type).count r ≤
        (eventListeners type).count r + cs.count (.addEventListener type r.listener r.options) := by
  induction cs with
  | nil => intro eventListeners; simp [run]
  | cons c cs ih =>
    intro eventListeners
    -- the step's bound, and the rest of the run's from the registry the step leaves
    have hstep : (c.step once eventListeners).2.count (type, r) +
        ((c.step once eventListeners).1 type).count r ≤ (eventListeners type).count r +
          if c = .addEventListener type r.listener r.options then 1 else 0 :=
      step_once_count once eventListeners c hro
    have hrest := ih (c.step once eventListeners).1
    simp only [run, List.count_append, List.count_cons, beq_iff_eq]
    omega

/-- A registration with `once` set, added once and dispatched twice, from any registry. -/
theorem once_calls_le_adds_of_two_dispatches :
    isOnce (fun _ : Nat => true) (some (.object (0 : Nat))) = true ∧
      ∀ eventListeners : StreamEventMapA Nat Nat,
        (run (fun _ => true) eventListeners
            [.addEventListener .data 1 (some (.object 0)), .dispatchEvent .data,
              .dispatchEvent .data]).2.count (.data, ⟨1, some (.object 0)⟩) +
          ((run (fun _ => true) eventListeners
            [.addEventListener .data 1 (some (.object 0)), .dispatchEvent .data,
              .dispatchEvent .data]).1 .data).count ⟨1, some (.object 0)⟩ ≤
          (eventListeners .data).count ⟨1, some (.object 0)⟩ +
            [StreamCall.addEventListener .data 1 (some (.object 0)), .dispatchEvent .data,
              .dispatchEvent .data].count (.addEventListener .data 1 (some (.object 0))) :=
  ⟨rfl, once_calls_le_adds (fun _ => true) _ rfl⟩

end Run

/-! ### Removals beyond the named registration -/

/-- Listeners `1` and `2` on `data`.  Registered both with `true`, removing listener `1` with
`true` removes listener `2` too.  Listener `1` registered with an options object whose `once` is
set and again with no options: the first dispatch calls both and removes both, so the second
calls nothing. -/
theorem removal_drops_unrelated_registrations :
    (run (fun _ : Nat => true) StreamEventMapA.empty
        [.addEventListener .data (1 : Nat) (some (.flag true)),
          .addEventListener .data 2 (some (.flag true)),
          .removeEventListener .data 1 (some (.flag true))]).1 .data = [] ∧
    (run (fun _ : Nat => true) StreamEventMapA.empty
        [.addEventListener .data (1 : Nat) (some (.object 0)),
          .addEventListener .data 1 none,
          .dispatchEvent .data,
          .dispatchEvent .data]).2 =
      [(.data, ⟨1, some (.object 0)⟩), (.data, ⟨1, none⟩)] := by
  constructor <;> decide

end GrpcStreamClient
