/-
  Mqtt/DeliveredStream.lean --- packets on their way to the client.

  During a call the network delivers a stream of packets, and the call's answer is
  the last of them.  A byte can be read once it has arrived; a client that looks for
  a packet before its first byte has arrived finds nothing.  `Delivery.feed` makes
  such a network a `Feed` for as long as no handler takes the answer, the client
  turns to it before the deadline and the connection is left alone.
-/
import AwsIot.Mqtt.Framing
import AwsIot.Mqtt.HeldState
import Mathlib.Data.Nat.Basic
import Mathlib.Order.Monotone.Defs

set_option autoImplicit false

namespace AwsIot.Mqtt

open AwsIot.Foundation Program

/-! ## Moments of a call -/

/-- The moments of a history that have at least `n` moments before them, newest first, each
with those before it. -/
def momentsFrom (n : Nat) : List Moment → List (Moment × List Moment)
  | [] => []
  | m :: older => if n ≤ older.length then (m, older) :: momentsFrom n older else []

/-- The moments since `w`, newest first, each with those before it. -/
def World.passed (w w' : World) : List (Moment × List Moment) :=
  momentsFrom w.history.length w'.history

theorem mem_momentsFrom {n : Nat} {p : Moment × List Moment} {history : List Moment} :
    p ∈ momentsFrom n history ↔
      ∃ newer, history = newer ++ p.1 :: p.2 ∧ n ≤ p.2.length := by
  induction history with
  | nil => simp [momentsFrom]
  | cons m older ih =>
    unfold momentsFrom
    constructor
    · intro hmem
      split at hmem
      case isTrue hle =>
        rcases List.mem_cons.mp hmem with rfl | hmem
        · exact ⟨[], rfl, hle⟩
        · obtain ⟨newer, rfl, hp⟩ := ih.mp hmem
          exact ⟨m :: newer, rfl, hp⟩
      case isFalse => cases hmem
    · rintro ⟨newer, hhistory, hle⟩
      cases newer with
      | nil =>
        obtain ⟨rfl, rfl⟩ := List.cons.inj hhistory
        rw [if_pos hle]
        exact List.mem_cons_self
      | cons m' newer =>
        obtain ⟨rfl, rfl⟩ := List.cons.inj hhistory
        rw [if_pos (by simp; omega)]
        exact List.mem_cons_of_mem _ (ih.mpr ⟨newer, rfl, hle⟩)

/-- Time goes on, and the log says what the history says. -/
def Grows (w w' : World) : Prop := w.time ≤ w'.time ∧ ∃ new : List Moment,
  w'.history = new ++ w.history ∧ w'.log = new.map Moment.event ++ w.log

instance : IsPreorder World Grows where
  refl w := ⟨Nat.le_refl _, [], rfl, rfl⟩
  trans := by
    rintro w w₁ w' ⟨htime, new, hhistory, hlog⟩ ⟨htime', new', hhistory', hlog'⟩
    refine ⟨Nat.le_trans htime htime', new' ++ new, ?_, ?_⟩
    · rw [hhistory', hhistory, List.append_assoc]
    · rw [hlog', hlog, List.map_append, List.append_assoc]

theorem grows_push (w : World) (e : Event) : Grows w (w.push e) :=
  ⟨Nat.le_refl _, [⟨e, w.time, w.client⟩], rfl, rfl⟩

theorem grows_steps (env : Env) : AllSteps env Grows where
  onClient w _ _ := refl_of Grows w
  tick _ := ⟨Nat.le_succ _, [], rfl, rfl⟩
  push w e _ := grows_push w e
  pushPacket w e _ := grows_push w e
  pushConnection w e _ := grows_push w e
  pushTurn w e _ := grows_push w e
  pushHandler w e _ := grows_push w e
  withState w _ := refl_of Grows w
  register _ _ _ := ⟨Nat.le_refl _, [_], rfl, rfl⟩
  clear _ _ := ⟨Nat.le_refl _, [_], rfl, rfl⟩
  reset _ := ⟨Nat.le_refl _, [_], rfl, rfl⟩
  onTable w _ _ := refl_of Grows w
  start _ := ⟨Nat.le_refl _, [_], rfl, rfl⟩
  double _ := ⟨Nat.le_refl _, [_], rfl, rfl⟩

theorem grows_apiCall (env : Env) (fuel depth : Nat) (call : ApiCall) :
    Keeps Grows (apiCall env fuel depth call : M IoTError) :=
  (grows_steps env).apiCall (fun w e _ => grows_push w e) fuel depth call

section Grows

variable {w w₁ w' : World}

theorem Grows.logGrows (h : Grows w w') : LogGrows w w' := by
  obtain ⟨-, new, -, hlog⟩ := h
  exact ⟨new.map Moment.event, hlog.symm⟩

theorem Grows.passed (h : Grows w₁ w') {p : Moment × List Moment} (hp : p ∈ w.passed w₁) :
    p ∈ w.passed w' := by
  obtain ⟨-, new, hhistory, -⟩ := h
  obtain ⟨newer, hp, hle⟩ := mem_momentsFrom.mp hp
  exact mem_momentsFrom.mpr ⟨new ++ newer, by rw [hhistory, hp, List.append_assoc], hle⟩

theorem Grows.length_le (h : Grows w w') : w.history.length ≤ w'.history.length := by
  obtain ⟨-, new, hhistory, -⟩ := h
  rw [hhistory, List.length_append]
  exact Nat.le_add_left _ _

theorem Grows.passed_of_passed (h : Grows w w₁) {p : Moment × List Moment}
    (hp : p ∈ w₁.passed w') : p ∈ w.passed w' := by
  obtain ⟨newer, hhistory, hle⟩ := mem_momentsFrom.mp hp
  exact mem_momentsFrom.mpr ⟨newer, hhistory, Nat.le_trans h.length_le hle⟩

/-- The newest moment is one of those since an earlier world. -/
theorem newest_passed {m : Moment} {older : List Moment} (hle : w.history.length ≤ older.length)
    (hhistory : w'.history = m :: older) : (m, older) ∈ w.passed w' :=
  mem_momentsFrom.mpr ⟨[], hhistory, hle⟩

theorem Grows.calm (h : Grows w₁ w') (hcalm : Calm (w.stretch w')) : Calm (w.stretch w₁) := by
  obtain ⟨-, new, -, hlog⟩ := h
  intro e he
  refine hcalm e ?_
  simp only [World.stretch, World.since, List.mem_reverse] at he ⊢
  rw [hlog]
  by_cases hle : w.log.length ≤ w₁.log.length
  · have hlength : (new.map Moment.event ++ w₁.log).length - w.log.length =
        (new.map Moment.event).length + (w₁.log.length - w.log.length) := by
      rw [List.length_append]
      omega
    rw [hlength, List.take_length_add_append]
    exact List.mem_append_right _ he
  · rw [Nat.sub_eq_zero_of_le (by omega)] at he
    cases he

theorem Grows.calm_of_calm (h : Grows w w₁) (hcalm : Calm (w.stretch w')) :
    Calm (w₁.stretch w') := by
  intro e he
  refine hcalm e ?_
  simp only [World.stretch, World.since, List.mem_reverse] at he ⊢
  obtain ⟨-, new, -, hlog⟩ := h
  refine (List.take_prefix_take_left ?_).subset he
  rw [hlog, List.length_append]
  omega

end Grows

/-! ## The size of the read buffer -/

/-- The read buffer keeps its size unless the connection is touched. -/
def KeepsSize (w w' : World) : Prop :=
  LogGrows w w' ∧ (w'.client.readBufSize = w.client.readBufSize ∨ Touched w w')

instance : IsPreorder World KeepsSize where
  refl w := ⟨refl_of LogGrows w, .inl rfl⟩
  trans := by
    rintro w w₁ w' ⟨hgrows, hsize⟩ ⟨hgrows', hsize'⟩
    refine ⟨trans_of LogGrows hgrows hgrows', ?_⟩
    rcases hsize with hsize | htouched
    · rcases hsize' with hsize' | htouched
      · exact .inl (hsize'.trans hsize)
      · exact .inr (htouched.after hgrows)
    · exact .inr (htouched.before hgrows')

theorem keepsSize_push (w : World) (e : Event) : KeepsSize w (w.push e) :=
  ⟨logGrows_push w e, .inl rfl⟩

theorem keepsSize_steps : PacketSteps KeepsSize where
  onClient w _ hf := ⟨refl_of LogGrows w, .inl (hf w.client).2.2.2⟩
  tick w := ⟨refl_of LogGrows w, .inl rfl⟩
  push w e _ := keepsSize_push w e
  pushPacket w e _ := keepsSize_push w e

theorem keepsSize_steering (env : Env) : Steering (m := M) env (Returns KeepsSize) where
  toTraffic := keepsSize_steps.toTrafficSteps.returning
  emitConnection _ w := keepsSize_push w _
  getClientState w := refl_of KeepsSize w
  setClientState site old new w := by
    rw [ends_setClientState]
    split
    · exact ⟨refl_of LogGrows w, .inl rfl⟩
    · exact refl_of KeepsSize w
  assignClientState new w := ⟨refl_of LogGrows w, .inl rfl⟩
  within hx := hx
  startInterval w := ⟨logGrows_push _ _, .inl rfl⟩
  doubleInterval w := ⟨logGrows_push w _, .inl rfl⟩

theorem keepsSize_everything (env : Env) : Everything (m := M) env (Returns KeepsSize) :=
  (keepsSize_steering env).everything keepsSize_steps.toTrafficSteps.modifyTimer
    fun fuel hcycle => hcycle.internalResubscribe fuel fun _ w => keepsSize_push w _

theorem deliverMessage_keepsSize {env : Env} {callbacks : Callbacks M}
    (hmessage : ∀ call, Returns KeepsSize (callbacks.message call)) (msg : IncomingPublish) :
    Returns KeepsSize (deliverMessage env callbacks msg : M IoTError) := by
  have hsteer := keepsSize_steering env
  have hslot : ∀ itr, Returns KeepsSize (deliverToSlot callbacks msg itr : M Unit) := by
    intro itr w
    rw [ends_deliverToSlot]
    cases slotCall w.client msg itr with
    | none => exact refl_of KeepsSize w
    | some call =>
      refine (hmessage call _).mono ?_ (fun _ _ => trivial)
      intro _ w' h
      exact trans_of KeepsSize (keepsSize_push w _) (trans_of KeepsSize h (keepsSize_push w' _))
  refine hsteer.bind hsteer.getClientState fun s => ?_
  refine hsteer.bind (hsteer.setClientState _ _ _) fun _ => ?_
  exact hsteer.bind (hsteer.forEach hslot _) fun _ => hsteer.setClientState _ _ _

/-- Initialising a client touches the connection. -/
theorem init_keepsSize (env : Env) (params : InitParams) :
    Returns KeepsSize (init env params : M IoTError) := by
  intro w
  refine (init_touches params).mono ?_ (fun _ _ => trivial)
  rintro rc w' (rfl | htouched)
  · exact refl_of KeepsSize _
  · obtain ⟨new, hnew, hnot⟩ := htouched
    exact ⟨hnew.grows, .inr ⟨new, hnew, hnot⟩⟩

theorem serving_keepsSize {env : Env} {callbacks : Callbacks M}
    (hmessage : ∀ call, Returns KeepsSize (callbacks.message call)) :
    Serving env callbacks (Returns KeepsSize) := by
  have hwait : Waiting env callbacks (Returns KeepsSize) :=
    { toPackets := keepsSize_steps.returning
      deliverReceived := fun msg => keepsSize_steps.toTrafficSteps.deliverReceived
        (haltsAfter_any _) (deliverMessage_keepsSize hmessage msg)
      registerHandler := fun _ _ w => ⟨logGrows_push _ _, .inl rfl⟩
      clearHandlers := fun _ w => ⟨logGrows_push _ _, .inl rfl⟩
      modifyTimer := keepsSize_steps.toTrafficSteps.modifyTimer }
  exact hwait.serving (init_keepsSize env)

theorem keepsSize_apiCall (env : Env) (fuel depth : Nat) (call : ApiCall) :
    Returns KeepsSize (apiCall env fuel depth call : M IoTError) :=
  (keepsSize_everything env).apiCall fuel (fun _ w => keepsSize_push w _)
    (fun _ ih => serving_keepsSize ((keepsSize_everything env).applicationCallbacks fuel ih).1)
    depth call

/-! ## What the network delivers -/

/-- How many bytes of the stream the event takes. -/
def Event.takes : Event → Nat
  | .netRead _ _ _ len rc _ _ => if rc = .success then len else 0
  | _ => 0

/-- The event is a read that found nothing. -/
def Event.foundNothing : Event → Bool
  | .netRead _ _ _ _ rc _ _ => rc = .networkSslNothingToRead
  | _ => false

/-- How many questions the client asks about an event before it looks for the next packet:
a PINGRESP sets the ping timer. -/
def Event.questionsBehind : Event → Nat
  | .packetRead packet =>
      if headerType (packet.headD 0) = MessageType.pingresp.code then 1 else 0
  | _ => 0

/-- How much of the stream the reads of a history have taken. -/
def takenBytes : List Moment → Nat
  | [] => 0
  | m :: older => takenBytes older + m.event.takes

/-- What the network delivers during a call: packets, and behind them an answer. -/
structure Delivery where
  /-- The bytes. -/
  stream : Memory
  /-- How many of them have arrived when so many questions have been asked. -/
  arrived : Nat → Nat
  /-- The packets in front of the answer. -/
  before : List WireFrame
  /-- The answer. -/
  answer : WireFrame

namespace Delivery

variable (d : Delivery)

/-- The packets and the answer. -/
def packets : List WireFrame := d.before ++ [d.answer]

/-- Where the answer begins, if the client stands at `start`. -/
def answerAt (start : Nat) : Nat := start + (d.before.flatMap WireFrame.bytes).length

/-- Where the answer ends. -/
def answerEnd (start : Nat) : Nat := start + (d.packets.flatMap WireFrame.bytes).length

/-- A read with `position` bytes taken before it: it stores the next bytes, which have
arrived, or it looks for a header byte and none has arrived yet. -/
def Serves (m : Moment) (position : Nat) : Prop :=
  match m.event with
  | .netRead site _ _ len rc readLen bytes =>
      rc = .success ∧ readLen = len ∧ bytes = d.stream.slice position len ∧
          position + len ≤ d.arrived m.time ∨
        site = .header ∧ rc = .networkSslNothingToRead ∧ d.arrived m.time ≤ position
  | _ => True

instance (m : Moment) (position : Nat) : Decidable (d.Serves m position) := by
  unfold Serves
  split
  · exact inferInstance
  · exact inferInstance

/-- The client stands between two packets, and the answer is still to come. -/
def InFront (start position : Nat) : Prop :=
  ∃ k ≤ d.before.length, position = start + ((d.before.take k).flatMap WireFrame.bytes).length

instance (start position : Nat) : Decidable (d.InFront start position) :=
  decidable_of_iff (∃ k < d.before.length + 1,
    position = start + ((d.before.take k).flatMap WireFrame.bytes).length)
    (exists_congr fun _ => and_congr_left fun _ => Nat.lt_succ_iff)

/-- A handler that returns has left the answer to the call. -/
def LeftBy (start : Nat) (m : Moment) (position : Nat) : Prop :=
  m.event = .handlerReturned → d.InFront start position

instance (start position : Nat) (m : Moment) : Decidable (d.LeftBy start m position) :=
  inferInstanceAs (Decidable (_ → _))

/-- What the client has just done, while the answer was there and not begun, did not take
it past the deadline. -/
def Prompt (clock : Nat → Nat) (deadline start : Nat) (m : Moment) (position : Nat) : Prop :=
  m.event.foundNothing = false → d.answerEnd start ≤ d.arrived m.time →
    position + m.event.takes ≤ d.answerAt start →
    clock (m.time + m.event.questionsBehind) < deadline

instance (clock : Nat → Nat) (deadline start position : Nat) (m : Moment) :
    Decidable (d.Prompt clock deadline start m position) :=
  inferInstanceAs (Decidable (_ → _ → _ → _))

/-- From `w` to `w'` the network delivered, no handler took the answer, the client was in
time and the connection was left alone. -/
structure Fair (clock : Nat → Nat) (deadline : Nat) (w w' : World) : Prop where
  reads : ∀ p ∈ w.passed w', d.Serves p.1 (takenBytes p.2)
  left : ∀ p ∈ w.passed w', d.LeftBy (takenBytes w.history) p.1 (takenBytes p.2)
  prompt : ∀ p ∈ w.passed w', d.Prompt clock deadline (takenBytes w.history) p.1 (takenBytes p.2)
  calm : Calm (w.stretch w')

/-- The stream continues with the packets and the answer, all of it arrives before the
deadline, and the answer is a complete acknowledgement of type `t`. -/
structure Arrives (clock : Nat → Nat) (deadline : Nat) (t : MessageType) (w : World) : Prop where
  /-- Bytes that have arrived stay. -/
  arrived : Monotone d.arrived
  /-- The stream. -/
  stream : d.stream.slice (takenBytes w.history) (d.packets.flatMap WireFrame.bytes).length =
    d.packets.flatMap WireFrame.bytes
  /-- The deadline. -/
  inTime : ∃ τ, clock τ < deadline ∧ d.answerEnd (takenBytes w.history) ≤ d.arrived τ
  /-- The type. -/
  type : headerType d.answer.header = t.code
  /-- The length of an acknowledgement. -/
  length : d.answer.body.length = if t = .suback then 3 else 2

end Delivery

/-! ## A call and its handlers -/

/-- How a call moves along: its handlers are properly nested, and the read buffer keeps its
size. -/
def Along (w w' : World) : Prop := Grows w w' ∧ Nests w w' ∧ KeepsSize w w'

instance : IsPreorder World Along where
  refl w := ⟨refl_of Grows w, refl_of Nests w, refl_of KeepsSize w⟩
  trans := by
    rintro w w₁ w' ⟨hgrows, hnests, hsize⟩ ⟨hgrows', hnests', hsize'⟩
    exact ⟨trans_of Grows hgrows hgrows', trans_of Nests hnests hnests',
      trans_of KeepsSize hsize hsize'⟩

theorem along_halted : HaltsAfter Along Grows where
  refl := refl_of Grows
  trans h h' := trans_of Grows h.1 h'

theorem along_push {e : Event} (he : e.kind ≠ .handler) (w : World) : Along w (w.push e) :=
  ⟨grows_push w e, nests_push he w, keepsSize_push w e⟩

theorem along_steps : PacketSteps Along where
  onClient w f hf := ⟨refl_of Grows w, nests_of_log rfl, keepsSize_steps.onClient w f hf⟩
  tick w := ⟨⟨Nat.le_succ _, [], rfl, rfl⟩, nests_of_log rfl, keepsSize_steps.tick w⟩
  push w e he := along_push (by rw [he]; decide) w
  pushPacket w e he := along_push (by rw [he]; decide) w

/-- A handler moves along. -/
theorem along_message (env : Env) (fuel depth : Nat) (call : HandlerCall) :
    Tracks Along Grows ((applicationCallbacks env fuel (apiCall env fuel depth)).message call) := by
  intro w
  have hgrows := ((grows_steps env).everything.applicationCallbacks fuel
    (grows_apiCall env fuel depth)).1 call w
  have hsize := ((keepsSize_everything env).applicationCallbacks fuel
    (keepsSize_apiCall env fuel depth)).1 call w
  refine (hgrows.and ((nests_message env fuel depth call w).and hsize)).mono ?_ (fun _ h => h.1)
  exact fun _ w' h => ⟨h.1, h.2.1, h.2.2⟩

/-- Around a handler. -/
theorem along_handler {call : HandlerCall} {w w' : World}
    (h : Along (w.push (.handlerCalled call)) w') : Along w (w'.push .handlerReturned) := by
  obtain ⟨hgrows, ⟨new, hnew, hbalanced⟩, hsize⟩ := h
  refine ⟨?_, ⟨_, ?_, hbalanced.handler call⟩, ?_⟩
  · exact trans_of Grows (grows_push w _) (trans_of Grows hgrows (grows_push w' _))
  · exact (((Extends.refl w).push _).trans hnew).push _
  · exact trans_of KeepsSize (keepsSize_push w _) (trans_of KeepsSize hsize (keepsSize_push w' _))

theorem deliverToSlot_along {callbacks : Callbacks M}
    (hmessage : ∀ call, Tracks Along Grows (callbacks.message call)) (msg : IncomingPublish)
    (itr : Nat) : Tracks Along Grows (deliverToSlot callbacks msg itr : M Unit) := by
  intro w
  rw [ends_deliverToSlot]
  cases slotCall w.client msg itr with
  | none => exact refl_of Along w
  | some call =>
    exact (hmessage call _).mono (fun _ w' h => along_handler h)
      (fun w' h => trans_of Grows (grows_push w _) h)

/-- What waits for packets moves along. -/
theorem waiting_along {env : Env} {callbacks : Callbacks M}
    (hmessage : ∀ call, Tracks Along Grows (callbacks.message call)) :
    Waiting env callbacks (Tracks Along Grows) where
  toPackets := along_steps.tracking along_halted
  deliverReceived msg := by
    have hcomp := tracks_compositional along_halted
    have hset : ∀ site old new, Tracks Along Grows (setClientState site old new : M IoTError) := by
      intro site old new w
      rw [ends_setClientState]
      split
      · exact ⟨refl_of Grows w, nests_of_log rfl, refl_of LogGrows w, .inl rfl⟩
      · exact refl_of Along w
    refine along_steps.toTrafficSteps.deliverReceived along_halted ?_
    refine hcomp.bind (fun w => refl_of Along w) fun s => hcomp.bind (hset _ _ _) fun _ => ?_
    exact hcomp.bind (hcomp.forEach (deliverToSlot_along hmessage msg) _) fun _ => hset _ _ _
  registerHandler _ _ w := ⟨⟨Nat.le_refl _, [_], rfl, rfl⟩,
    nests_update (by simp [Event.kind]) w _, logGrows_push _ _, .inl rfl⟩
  clearHandlers _ w := ⟨⟨Nat.le_refl _, [_], rfl, rfl⟩,
    nests_update (by simp [Event.kind]) w _, logGrows_push _ _, .inl rfl⟩
  modifyTimer := along_steps.toTrafficSteps.modifyTimer

/-! ## The network as a feed -/

namespace Delivery

variable {d : Delivery} {clock : Nat → Nat} {deadline : Nat} {w w₁ w' : World}

theorem Fair.of_grows (hgrows : Grows w₁ w') (h : d.Fair clock deadline w w') :
    d.Fair clock deadline w w₁ where
  reads p hp := h.reads p (hgrows.passed hp)
  left p hp := h.left p (hgrows.passed hp)
  prompt p hp := h.prompt p (hgrows.passed hp)
  calm := hgrows.calm h.calm

theorem Fair.after (hgrows : Grows w w₁) (htaken : takenBytes w₁.history = takenBytes w.history)
    (h : d.Fair clock deadline w w') : d.Fair clock deadline w₁ w' where
  reads p hp := h.reads p (hgrows.passed_of_passed hp)
  left p hp := by
    rw [htaken]
    exact h.left p (hgrows.passed_of_passed hp)
  prompt p hp := by
    rw [htaken]
    exact h.prompt p (hgrows.passed_of_passed hp)
  calm := hgrows.calm_of_calm h.calm

variable (d clock deadline w) in
/-- The network, from the start `w` of a call on.  A run that it served may halt in a
handler. -/
def feed : Feed where
  stream := d.stream
  position w' := takenBytes w'.history
  since := Along w
  fair := d.Fair clock deadline w
  mayHalt w' := ∃ new, Extends w new w' ∧ 0 < depthAfter 0 new
  along := Along
  alongHalted := Grows
  since_along := trans_of Along
  fair_along halong := Fair.of_grows halong.1
  fair_alongHalted := Fair.of_grows
  position_eq _ hhistory := by rw [hhistory]
  position_packet _ _ := rfl
  read := by
    intro w₁ site state offset len rc readLen bytes hsince hfair
    have hserves := hfair.reads _ (newest_passed hsince.1.length_le rfl)
    rcases hserves with ⟨rfl, hlen, hbytes, -⟩ | ⟨hsite, rfl, -⟩
    · exact .inl ⟨rfl, hlen, hbytes, rfl⟩
    · exact .inr ⟨hsite, rfl, rfl⟩

theorem feed_moves (d : Delivery) (clock : Nat → Nat) (deadline : Nat) (w : World) :
    Packets (m := M) (d.feed clock deadline w).Moves :=
  along_steps.tracking along_halted

theorem Fair.size (halong : Along w w') (h : d.Fair clock deadline w w') :
    w'.client.readBufSize = w.client.readBufSize :=
  halong.2.2.2.resolve_right fun htouched => htouched.not_calm h.calm

/-! ## Where the client stands -/

theorem InFront.le {start position : Nat} (h : d.InFront start position) :
    position ≤ d.answerAt start := by
  obtain ⟨k, -, rfl⟩ := h
  refine Nat.add_le_add_left ?_ start
  have hsplit : d.before.flatMap WireFrame.bytes = (d.before.take k).flatMap WireFrame.bytes ++
      (d.before.drop k).flatMap WireFrame.bytes := by
    rw [← List.flatMap_append, List.take_append_drop]
  rw [hsplit, List.length_append]
  exact Nat.le_add_right _ _

theorem answerAt_lt (d : Delivery) (start : Nat) : d.answerAt start < d.answerEnd start := by
  unfold answerAt answerEnd packets
  rw [List.flatMap_append, List.length_append]
  simp [WireFrame.bytes]

/-- A client in front of the answer has a packet in front of it; behind that packet it still
is in front of the answer, or the packet is the answer. -/
theorem InFront.next {start position : Nat}
    (hstream : d.stream.slice start (d.packets.flatMap WireFrame.bytes).length =
      d.packets.flatMap WireFrame.bytes) (h : d.InFront start position) :
    ∃ f ∈ d.packets, d.stream.slice position f.bytes.length = f.bytes ∧
      (d.InFront start (position + f.bytes.length) ∨ f = d.answer) := by
  have hframe : ∀ earlier f later, d.packets = earlier ++ f :: later →
      d.stream.slice (start + (earlier.flatMap WireFrame.bytes).length) f.bytes.length =
        f.bytes := by
    intro earlier f later hpackets
    rw [hpackets, List.flatMap_append, List.flatMap_cons, List.length_append, List.length_append,
      Memory.slice_add, Memory.slice_add] at hstream
    have hrest := (List.append_inj hstream Memory.length_slice).2
    exact (List.append_inj hrest Memory.length_slice).1
  obtain ⟨k, hk, rfl⟩ := h
  rcases Nat.lt_or_eq_of_le hk with hlt | rfl
  · have hpackets : d.packets = d.before.take k ++
        d.before[k] :: (d.before.drop (k + 1) ++ [d.answer]) := by
      rw [packets, ← List.cons_append, ← List.drop_eq_getElem_cons hlt, ← List.append_assoc,
        List.take_append_drop]
    refine ⟨d.before[k], by simp [packets], hframe _ _ _ hpackets, .inl ⟨k + 1, hlt, ?_⟩⟩
    rw [List.take_succ_eq_append_getElem hlt, List.flatMap_append, List.length_append,
      ← Nat.add_assoc]
    simp
  · refine ⟨d.answer, by simp [packets], ?_, .inr rfl⟩
    rw [List.take_length]
    exact hframe d.before d.answer [] rfl

/-- While the answer is not begun, the client that has just done something is in time. -/
theorem Fair.inTime {t : MessageType} (hclock : Monotone clock)
    (harrives : d.Arrives clock deadline t w) (h : d.Fair clock deadline w w') {m : Moment}
    {older : List Moment} (hle : w.history.length ≤ older.length)
    (hhistory : w'.history = m :: older) (hnot : m.event.foundNothing = false)
    (hposition : takenBytes w'.history ≤ d.answerAt (takenBytes w.history)) :
    clock (m.time + m.event.questionsBehind) < deadline := by
  have hprompt := h.prompt _ (newest_passed hle hhistory)
  rw [hhistory] at hposition
  obtain ⟨τ, hτ, harrived⟩ := harrives.inTime
  by_cases hthere : d.answerEnd (takenBytes w.history) ≤ d.arrived m.time
  · exact hprompt hnot hthere hposition
  · -- the answer arrives later, and then it is early enough
    have hlt : m.time < τ := by
      by_contra hle
      exact hthere (Nat.le_trans harrived (harrives.arrived (Nat.le_of_not_lt hle)))
    have hbehind : m.event.questionsBehind ≤ 1 := by
      unfold Event.questionsBehind
      split
      · split <;> omega
      · omega
    exact Nat.lt_of_le_of_lt (hclock (by omega)) hτ

/-- A client that found nothing is in time: the answer is still to arrive. -/
theorem Fair.inTime_of_nothing {t : MessageType} (hclock : Monotone clock)
    (harrives : d.Arrives clock deadline t w) (h : d.Fair clock deadline w w')
    (hgrows : Grows w w₁) (hnothing : NothingRead w₁ w')
    (hposition : takenBytes w₁.history ≤ d.answerAt (takenBytes w.history)) :
    clock w'.time < deadline := by
  obtain ⟨state, offset, len, readLen, bytes, -, hhistory⟩ := hnothing
  obtain ⟨τ, hτ, harrived⟩ := harrives.inTime
  have hempty : d.arrived w'.time ≤ takenBytes w₁.history := by
    rcases h.reads _ (newest_passed hgrows.length_le hhistory) with ⟨hrc, -⟩ | ⟨-, -, hempty⟩
    · cases hrc
    · exact hempty
  have hend := d.answerAt_lt (takenBytes w.history)
  have hlt : w'.time < τ := by
    by_contra hle
    have := harrives.arrived (Nat.le_of_not_lt hle)
    omega
  exact Nat.lt_of_le_of_lt (hclock (Nat.le_of_lt hlt)) hτ

end Delivery

end AwsIot.Mqtt
