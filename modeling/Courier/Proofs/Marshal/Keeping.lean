import Courier.Rpc.Desk
import Mathlib.Data.List.Basic

/-!
# What marshaling does to what the stages share

While a message is written or read, the stages of the chain may look at what they
share and change it.  What each stage does to it at most, such as to add something
or to leave a part alone, is all that marshaling does, whether the message could be
written or read or not (`MarshalChain.Leads`).

At a desk the table of calls is left alone (`Desk.keeps_chain`): the channel's own
stage exports objects and makes proxies, and the further stages do not know of the
channel at all.
-/

namespace Courier

set_option autoImplicit false

namespace Marshal

variable {σ α β : Type} {relation : σ → σ → Prop}

theorem run_bind (step : Marshal σ α) (next : α → Marshal σ β) (state : σ) :
    (step >>= next).run state =
      match step.run state with
      | (.ok value, after) => (next value).run after
      | (.error fault, after) => (.error fault, after) := by
  simp only [bind, ExceptT.bind, ExceptT.mk, ExceptT.run, StateT.bind, ExceptT.bindCont]
  rcases step state with ⟨_ | _, _⟩ <;> rfl

/-- What follows a step that succeeds goes on with its value. -/
theorem run_bind_of_ok {step : Marshal σ α} {value : α} {state after : σ}
    (stepped : step.run state = (.ok value, after)) (next : α → Marshal σ β) :
    (step >>= next).run state = (next value).run after := by
  rw [run_bind, stepped]

theorem run_tryCatch (step : Marshal σ α) (handler : MarshalError → Marshal σ α) (state : σ) :
    (tryCatch step handler).run state =
      match step.run state with
      | (.ok value, after) => (.ok value, after)
      | (.error fault, after) => (handler fault).run after := by
  simp only [tryCatch, tryCatchThe, MonadExceptOf.tryCatch, ExceptT.tryCatch, ExceptT.mk,
    ExceptT.run, bind, StateT.bind]
  rcases step state with ⟨_ | _, _⟩ <;> rfl

/-- What a step that succeeds in the end has gone through. -/
theorem ok_of_bind {step : Marshal σ α} {next : α → Marshal σ β} {state after : σ} {result : β}
    (succeeded : (step >>= next).run state = (.ok result, after)) :
    ∃ value between, step.run state = (.ok value, between) ∧
      (next value).run between = (.ok result, after) := by
  rw [run_bind] at succeeded
  rcases stepped : step.run state with ⟨fault | value, between⟩
  · rw [stepped] at succeeded
    cases succeeded
  · rw [stepped] at succeeded
    exact ⟨value, between, rfl, succeeded⟩

/-- What is done may be nothing, or one thing after the other. -/
structure Habit (relation : σ → σ → Prop) : Prop where
  refl : ∀ state, relation state state
  trans : ∀ {first second third}, relation first second → relation second third →
    relation first third

/-- A step does to the state what the relation says, whether it succeeds or not. -/
def Leads (relation : σ → σ → Prop) (step : Marshal σ α) : Prop :=
  ∀ state, relation state (step.run state).2

theorem leads_pure (habit : Habit relation) (value : α) :
    Leads relation (pure value : Marshal σ α) := fun state => habit.refl state

theorem leads_throw (habit : Habit relation) (fault : MarshalError) :
    Leads relation (throw fault : Marshal σ α) := fun state => habit.refl state

theorem Leads.bind (habit : Habit relation) {step : Marshal σ α} {next : α → Marshal σ β}
    (first : Leads relation step) (second : ∀ value, Leads relation (next value)) :
    Leads relation (step >>= next) := by
  intro state
  have before := first state
  rw [run_bind]
  rcases stepped : step.run state with ⟨fault | value, after⟩ <;> rw [stepped] at before
  · exact before
  · exact habit.trans before (second value after)

theorem Leads.tryCatch (habit : Habit relation) {step : Marshal σ α}
    {handler : MarshalError → Marshal σ α} (first : Leads relation step)
    (second : ∀ fault, Leads relation (handler fault)) :
    Leads relation (tryCatch step handler) := by
  intro state
  have before := first state
  rw [run_tryCatch]
  rcases stepped : step.run state with ⟨fault | value, after⟩ <;> rw [stepped] at before
  · exact habit.trans before (second fault after)
  · exact before

theorem leads_mapM (habit : Habit relation) {step : α → Marshal σ β}
    (each : ∀ item, Leads relation (step item)) (items : List α) :
    Leads relation (items.mapM step) := by
  induction items with
  | nil => exact leads_pure habit []
  | cons item items ih =>
    rw [List.mapM_cons]
    exact (each item).bind habit fun _ => ih.bind habit fun _ => leads_pure habit _

theorem leads_foldlM (habit : Habit relation) {step : β → α → Marshal σ β} {items : List α}
    (each : ∀ item ∈ items, ∀ value, Leads relation (step value item)) (value : β) :
    Leads relation (items.foldlM step value) := by
  induction items generalizing value with
  | nil => exact leads_pure habit value
  | cons item items ih =>
    rw [List.foldlM_cons]
    exact (each item (List.mem_cons_self ..) value).bind habit fun next =>
      ih (fun other listed => each other (List.mem_cons_of_mem _ listed)) next

end Marshal

/-! ## Chains -/

/-- A stage does to the state what the relation says. -/
structure Stage.Leads {σ : Type} (relation : σ → σ → Prop) (stage : Stage σ) : Prop where
  write : ∀ value, Marshal.Leads relation (stage.write value)
  read : ∀ value, Marshal.Leads relation (stage.read value)

namespace MarshalChain

variable {σ : Type} {relation : σ → σ → Prop} {chain : MarshalChain σ}

/-- All stages of a chain do to the state what the relation says. -/
def Leads (relation : σ → σ → Prop) (chain : MarshalChain σ) : Prop :=
  ∀ stage ∈ chain.stages, stage.Leads relation

/-- All stages of a chain do to the state what the relation says, on the way in. -/
def LeadsInward (relation : σ → σ → Prop) (chain : MarshalChain σ) : Prop :=
  ∀ stage ∈ chain.stages, ∀ value, Marshal.Leads relation (stage.read value)

theorem Leads.inward (leads : chain.Leads relation) : chain.LeadsInward relation :=
  fun stage listed => (leads stage listed).read

theorem Leads.replace (leads : chain.Leads relation) (habit : Marshal.Habit relation)
    (value : Value) : Marshal.Leads relation (chain.replace value) :=
  Marshal.leads_foldlM habit (fun stage listed node => (leads stage listed).write node) value

theorem LeadsInward.resolve (leads : chain.LeadsInward relation) (habit : Marshal.Habit relation)
    (value : Value) : Marshal.Leads relation (chain.resolve value) :=
  Marshal.leads_foldlM habit
    (fun stage listed node => leads stage (List.mem_reverse.mp listed) node) value

theorem Leads.toPortableWithin (leads : chain.Leads relation) (habit : Marshal.Habit relation)
    (allowance : Nat) (value : Value) :
    Marshal.Leads relation (chain.toPortableWithin allowance value) := by
  induction allowance generalizing value with
  | zero => exact Marshal.leads_throw habit _
  | succ allowance ih =>
    refine (leads.replace habit value).bind habit fun node => ?_
    cases node with
    | null => exact Marshal.leads_pure habit _
    | bool value => exact Marshal.leads_pure habit _
    | int value => exact Marshal.leads_pure habit _
    | float value => exact Marshal.leads_pure habit _
    | str text => exact Marshal.leads_pure habit _
    | bytes content => exact Marshal.leads_pure habit _
    | list items =>
      exact (Marshal.leads_mapM habit ih items).bind habit fun _ => Marshal.leads_pure habit _
    | map entries =>
      exact (Marshal.leads_mapM habit
        (fun entry => (ih entry.2).bind habit fun _ => Marshal.leads_pure habit _) entries).bind
          habit fun _ => Marshal.leads_pure habit _
    | remote handle => exact Marshal.leads_pure habit _
    | live object => exact Marshal.leads_throw habit _

theorem Leads.toPortable (leads : chain.Leads relation) (habit : Marshal.Habit relation)
    (value : Value) : Marshal.Leads relation (chain.toPortable value) :=
  leads.toPortableWithin habit _ value

mutual

theorem LeadsInward.ofPortable (leads : chain.LeadsInward relation) (habit : Marshal.Habit relation)
    (portable : Portable) : Marshal.Leads relation (chain.ofPortable portable) :=
  match portable with
  | .null => leads.resolve habit _
  | .bool _ => leads.resolve habit _
  | .int _ => leads.resolve habit _
  | .float _ => leads.resolve habit _
  | .str _ => leads.resolve habit _
  | .bytes _ => leads.resolve habit _
  | .list items => (LeadsInward.ofPortableItems leads habit items).bind habit fun _ =>
      leads.resolve habit _
  | .map entries => (LeadsInward.ofPortableEntries leads habit entries).bind habit fun _ =>
      leads.resolve habit _
  | .ref _ => leads.resolve habit _

theorem LeadsInward.ofPortableItems (leads : chain.LeadsInward relation)
    (habit : Marshal.Habit relation) (items : List Portable) :
    Marshal.Leads relation (chain.ofPortableItems items) :=
  match items with
  | [] => Marshal.leads_pure habit _
  | item :: rest => (LeadsInward.ofPortable leads habit item).bind habit fun _ =>
      (LeadsInward.ofPortableItems leads habit rest).bind habit fun _ => Marshal.leads_pure habit _

theorem LeadsInward.ofPortableEntries (leads : chain.LeadsInward relation)
    (habit : Marshal.Habit relation) (entries : List (String × Portable)) :
    Marshal.Leads relation (chain.ofPortableEntries entries) :=
  match entries with
  | [] => Marshal.leads_pure habit _
  | (_, item) :: rest => (LeadsInward.ofPortable leads habit item).bind habit fun _ =>
      (LeadsInward.ofPortableEntries leads habit rest).bind habit fun _ =>
        Marshal.leads_pure habit _

end

/-- Writing a message of a channel, whether it succeeds or not. -/
theorem Leads.encode (leads : chain.Leads relation) (habit : Marshal.Habit relation)
    (message : ChannelMessage) : Marshal.Leads relation (message.encode chain) := by
  refine Marshal.Leads.bind habit ?_ fun _ => Marshal.leads_pure habit _
  cases message with
  | call request =>
    exact (Marshal.leads_mapM habit (leads.toPortable habit) _).bind habit fun _ =>
      Marshal.leads_pure habit _
  | reply callId outcome =>
    cases outcome with
    | ok value =>
      exact (leads.toPortable habit value).bind habit fun _ => Marshal.leads_pure habit _
    | error error => exact Marshal.leads_pure habit _
  | unreadable callId reason => exact Marshal.leads_throw habit _

/-- Reading a message of a channel, whether it succeeds or not. -/
theorem LeadsInward.decode (leads : chain.LeadsInward relation) (habit : Marshal.Habit relation)
    (bytes : Bytes) : Marshal.Leads relation (ChannelMessage.decode chain bytes) := by
  unfold ChannelMessage.decode
  split
  · rename_i message _
    cases message with
    | call callId instanceId signature arguments =>
      exact (Marshal.leads_mapM habit (leads.ofPortable habit) _).bind habit fun _ =>
        Marshal.leads_pure habit _
    | failure callId error => exact Marshal.leads_pure habit _
    | result callId document =>
      refine Marshal.Leads.tryCatch habit
        (Marshal.Leads.bind habit ?_ fun _ => Marshal.leads_pure habit _)
        fun _ => Marshal.leads_pure habit _
      unfold ChannelMessage.resultValue
      split
      · exact leads.ofPortable habit _
      · exact Marshal.leads_throw habit _
  · exact Marshal.leads_throw habit _

theorem Leads.decode (leads : chain.Leads relation) (habit : Marshal.Habit relation)
    (bytes : Bytes) : Marshal.Leads relation (ChannelMessage.decode chain bytes) :=
  leads.inward.decode habit bytes

/-! ### Parts that are left alone -/

section Keeping

variable {κ : Type} {view : σ → κ}

/-- What `view` shows of the state is the same as before. -/
def Unchanged (view : σ → κ) (before after : σ) : Prop := view after = view before

theorem habit_unchanged (view : σ → κ) : Marshal.Habit (Unchanged view) :=
  ⟨fun _ => rfl, fun first second => Eq.trans second first⟩

/-- All stages of a chain leave what `view` shows of the state as it is. -/
def Keeps (view : σ → κ) (chain : MarshalChain σ) : Prop := chain.Leads (Unchanged view)

theorem Keeps.encode (kept : chain.Keeps view) (message : ChannelMessage) (state : σ) :
    view ((message.encode chain).run state).2 = view state :=
  Leads.encode kept (habit_unchanged view) message state

theorem Keeps.decode (kept : chain.Keeps view) (bytes : Bytes) (state : σ) :
    view ((ChannelMessage.decode chain bytes).run state).2 = view state :=
  Leads.decode kept (habit_unchanged view) bytes state

end Keeping

end MarshalChain

/-! ## Desks -/

namespace Channel

/-- What a channel knows of its calls, and whether it has ended. -/
def standing (channel : Channel) : CallTable × Bool := (channel.calls, channel.terminated)

theorem standing_proxy (channel : Channel) (handle : RemoteHandle) :
    (channel.proxy handle).2.standing = channel.standing := by
  unfold proxy
  split <;> rfl

theorem standing_resolve (channel : Channel) (handle : RemoteHandle) :
    (channel.resolve handle).2.standing = channel.standing := by
  unfold resolve
  cases channel.lookup? handle.instanceId with
  | none => exact channel.standing_proxy handle
  | some service => rfl

theorem standing_refer (channel : Channel) (service : ServiceRef) :
    (channel.refer service).2.standing = channel.standing := by
  unfold refer
  cases channel.singletons.nameOf? service <;> rfl

theorem standing_resolveNode (channel : Channel) (value : Value) :
    (resolveNode value channel).2.standing = channel.standing := by
  cases value with
  | remote handle => exact channel.standing_resolve handle
  | _ => rfl

theorem standing_replaceNode (channel : Channel) (value : Value) :
    (replaceNode value channel).2.standing = channel.standing := by
  cases value with
  | live object =>
    cases object with
    | service service => exact channel.standing_refer service
    | _ => rfl
  | _ => rfl

end Channel

namespace Desk

variable {τ : Type}

def standing (desk : Desk τ) : CallTable × Bool := desk.channel.standing

/-- Marshaling leaves the calls of a channel alone. -/
theorem keeps_chain (further : List (Stage τ)) : (chain further).Keeps standing := by
  intro stage listed
  rcases List.mem_append.mp listed with before | last
  · obtain ⟨other, _, rfl⟩ := List.mem_map.mp before
    exact ⟨fun _ _ => rfl, fun _ _ => rfl⟩
  · rw [List.mem_singleton.mp last]
    exact ⟨fun value desk => desk.channel.standing_replaceNode value,
      fun value desk => desk.channel.standing_resolveNode value⟩

end Desk

end Courier
