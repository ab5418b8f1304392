/-
  Mqtt/Suback.lean --- which SUBACKs count as success.

  A SUBACK for one filter carries one return code: a granted quality of service, or
  0x80 for a refusal.  Neither `_aws_iot_mqtt_internal_subscribe` nor
  `_aws_iot_mqtt_internal_resubscribe` looks at the codes the parser stored, and the
  parser's count limit lets one code too many pass.  `fillsResult_iff` says for which
  SUBACKs the parser stays inside the array it fills, `suback_honoured_iff` for which the
  verdict is right.
-/
import AwsIot.Mqtt.BufferReads
import AwsIot.Mqtt.RequestRules

set_option autoImplicit false

namespace AwsIot.Mqtt

open AwsIot.Foundation Reader Program

/-! ## The SUBACK layout -/

/-- Read the fixed header of a SUBACK packet: the remaining length. -/
def readSubackHeader : Reader Nat := do
  let header ← byte
  check (headerType header == MessageType.suback.code)
  base128 4

/-- The return codes of a SUBACK packet: what its remaining length leaves behind the
packet id. -/
def subackCodes (packet : List UInt8) : Option (List UInt8) :=
  match readSubackHeader.run packet with
  | some (len, body) => if 2 ≤ len ∧ len ≤ body.length then some ((body.take len).drop 2) else none
  | none => none

/-- The broker granted the one filter that was asked for. -/
def Granted (packet : List UInt8) : Prop := ∃ code, subackCodes packet = some [code] ∧ code ≤ 2

/-- Return codes that grant nothing and are not noticed: none, two, or a single one
that is no quality of service. -/
def isMisjudged : List UInt8 → Bool
  | [] => true
  | [code] => decide (2 < code)
  | [_, _] => true
  | _ :: _ :: _ :: _ => false

/-- The packet carries such return codes. -/
def Misjudged (packet : List UInt8) : Prop :=
  ∃ codes, subackCodes packet = some codes ∧ isMisjudged codes = true

/-! ## The parser's verdict -/

section Parser

variable {f : Frame} {c : Client}

/-- A frame's remaining length, as the format reads it. -/
theorem readSubackHeader_frame (htype : headerType f.header = MessageType.suback.code) :
    readSubackHeader.run f.bytes =
      if f.body.length % 2 ^ 32 < 128 ^ 4 then some (f.body.length % 2 ^ 32, f.body) else none := by
  have hcheck : (headerType f.header == MessageType.suback.code) = true := by simp [htype]
  have hbyte : StateT.run byte f.bytes = some (f.header, f.lenBytes ++ f.body) := rfl
  have hrun : readSubackHeader.run f.bytes = (base128 4).run (f.lenBytes ++ f.body) := by
    rw [readSubackHeader, StateT.run_bind, hbyte]
    show StateT.run (check (headerType f.header == MessageType.suback.code) >>= fun _ => base128 4)
      (f.lenBytes ++ f.body) = _
    rw [StateT.run_bind, hcheck]
    rfl
  rw [hrun, Frame.lenBytes]
  split
  case isTrue hlt => exact reads_writeLenToBuffer hlt f.body
  case isFalse hge => exact base128_writeLenDigits_none 4 5 _ _ (Nat.le_of_not_lt hge) (by omega)

/-- The parser reports SUCCESS for at most two return codes, whatever they are. -/
theorem deserializeSuback_success_iff (hheld : f.HeldBy c)
    (htype : headerType f.header = MessageType.suback.code) :
    (deserializeSuback 1 c.readBuf c.readBufSize).rc = .success ↔
      5 ≤ c.readBufSize ∧ ∃ codes, subackCodes f.bytes = some codes ∧ codes.length ≤ 2 := by
  have hdecode := decodeRemainingLengthFromBuffer_eq hheld.rest.1
  have hle : f.body.length % 2 ^ 32 ≤ f.body.length := Nat.mod_le _ _
  unfold deserializeSuback subackCodes
  rw [hheld.header, hdecode, readSubackHeader_frame htype]
  split
  case isTrue hshort => exact iff_of_false (by simp) (by omega)
  case isFalse hbuf =>
    rw [if_neg (not_not.mpr htype)]
    by_cases hlt : f.body.length % 2 ^ 32 < 128 ^ 4
    · rw [if_pos hlt, if_pos hlt]
      dsimp only
      by_cases htwo : f.body.length % 2 ^ 32 < 2
      · rw [if_pos htwo, if_neg (by omega)]
        simp
      · rw [if_neg htwo, if_pos ⟨by omega, hle⟩]
        show (readGrantedQoSs _ _ _ _ _).1 = .success ↔ _
        rw [readGrantedQoSs_success_iff]
        simp only [Option.some.injEq, exists_eq_left', List.length_drop, List.length_take,
          List.length_nil, Nat.min_eq_left hle]
        omega
    · rw [if_neg hlt, if_neg hlt]
      simp

theorem granted_iff_of_length {packet codes : List UInt8} (hcodes : subackCodes packet = some codes)
    (hlen : codes.length ≤ 2) : Granted packet ↔ ¬ Misjudged packet := by
  unfold Granted Misjudged
  rw [hcodes]
  match codes, hlen with
  | [], _ => simp [isMisjudged]
  | [code], _ => simp [isMisjudged]
  | [a, b], _ => simp [isMisjudged]

/-- The verdict is right unless the SUBACK is misjudged. -/
theorem deserializeSuback_honoured_iff (hheld : f.HeldBy c)
    (htype : headerType f.header = MessageType.suback.code) :
    ((deserializeSuback 1 c.readBuf c.readBufSize).rc = .success → Granted f.bytes) ↔
      ¬ (5 ≤ c.readBufSize ∧ Misjudged f.bytes) := by
  rw [deserializeSuback_success_iff hheld htype]
  constructor
  · rintro h ⟨hbuf, codes, hcodes, hmis⟩
    have hlen : codes.length ≤ 2 := by
      match codes, hmis with
      | [], _ => simp
      | [code], _ => simp
      | [a, b], _ => simp
    exact (granted_iff_of_length hcodes hlen).mp (h ⟨hbuf, codes, hcodes, hlen⟩)
      ⟨codes, hcodes, hmis⟩
  · rintro h ⟨hbuf, codes, hcodes, hlen⟩
    exact (granted_iff_of_length hcodes hlen).mpr fun hmis => h ⟨hbuf, hmis⟩

end Parser

/-! ## The result array -/

/-- The parser stores no more return codes than its caller allows, and on SUCCESS it has
stored the return codes of the packet, all of them and in order. -/
structure FillsResult (maxExpectedQoSCount : Nat) (rxBuf : Memory) (rxBufLen : Nat) : Prop where
  /-- The result array has room. -/
  room : (deserializeSuback maxExpectedQoSCount rxBuf rxBufLen).grantedQoSs.length ≤
    maxExpectedQoSCount
  /-- What a SUCCESS says. -/
  codes : (deserializeSuback maxExpectedQoSCount rxBuf rxBufLen).rc = .success →
    ∃ decodedLen readBytesLen,
      decodeRemainingLengthFromBuffer rxBuf 1 = .ok (decodedLen, readBytesLen) ∧
      2 + (deserializeSuback maxExpectedQoSCount rxBuf rxBufLen).grantedQoSs.length = decodedLen ∧
      (deserializeSuback maxExpectedQoSCount rxBuf rxBufLen).grantedQoSs =
        rxBuf.slice (1 + readBytesLen + 2) (decodedLen - 2)

section ResultArray

variable {maxExpectedQoSCount : Nat} {rxBuf : Memory} {rxBufLen : Nat}

/-- The return codes that the parser stores. -/
theorem grantedQoSs_deserializeSuback {decodedLen readBytesLen : Nat} (hn : 5 ≤ rxBufLen)
    (htype : headerType (rxBuf 0) = MessageType.suback.code)
    (hdecode : decodeRemainingLengthFromBuffer rxBuf 1 = .ok (decodedLen, readBytesLen)) :
    (deserializeSuback maxExpectedQoSCount rxBuf rxBufLen).grantedQoSs =
      rxBuf.slice (1 + readBytesLen + 2) (min (decodedLen - 2) (maxExpectedQoSCount + 1)) := by
  unfold deserializeSuback
  rw [if_neg (Nat.not_lt.mpr hn), if_neg (not_not.mpr htype), hdecode]
  dsimp only
  split
  case isTrue hlen =>
    rw [Nat.sub_eq_zero_of_le (Nat.le_of_lt hlen), Nat.zero_min, Memory.slice_zero]
  case isFalse =>
    rw [readGrantedQoSs_eq]
    exact List.nil_append _

/-- Without a SUBACK in the buffer nothing is stored. -/
theorem grantedQoSs_eq_nil (h : ¬ (5 ≤ rxBufLen ∧ headerType (rxBuf 0) = MessageType.suback.code ∧
      ∃ r, decodeRemainingLengthFromBuffer rxBuf 1 = .ok r)) :
    (deserializeSuback maxExpectedQoSCount rxBuf rxBufLen).grantedQoSs = [] := by
  unfold deserializeSuback
  split
  case isTrue => rfl
  case isFalse hshort =>
    split
    case isTrue => rfl
    case isFalse htype =>
      split
      case h_1 => rfl
      case h_2 hdecode => exact absurd ⟨by omega, not_not.mp htype, _, hdecode⟩ h

end ResultArray

/-- A SUBACK cannot overflow its caller's result array, for every content of the buffer and
every size of the array, if and only if the buffer holds no SUBACK with more return codes
than the array has members. -/
theorem fillsResult_iff (maxExpectedQoSCount : Nat) (rxBuf : Memory) (rxBufLen : Nat) :
    FillsResult maxExpectedQoSCount rxBuf rxBufLen ↔
      (5 ≤ rxBufLen → headerType (rxBuf 0) = MessageType.suback.code →
        ∀ decodedLen readBytesLen,
          decodeRemainingLengthFromBuffer rxBuf 1 = .ok (decodedLen, readBytesLen) →
          decodedLen - 2 ≤ maxExpectedQoSCount) := by
  constructor
  · intro h hn htype decodedLen readBytesLen hdecode
    have hroom := h.room
    rw [grantedQoSs_deserializeSuback hn htype hdecode, Memory.length_slice] at hroom
    omega
  · intro h
    constructor
    · by_cases hsuback : 5 ≤ rxBufLen ∧ headerType (rxBuf 0) = MessageType.suback.code ∧
          ∃ r, decodeRemainingLengthFromBuffer rxBuf 1 = .ok r
      · obtain ⟨hn, htype, ⟨decodedLen, readBytesLen⟩, hdecode⟩ := hsuback
        have hcount := h hn htype decodedLen readBytesLen hdecode
        rw [grantedQoSs_deserializeSuback hn htype hdecode, Memory.length_slice]
        omega
      · rw [grantedQoSs_eq_nil hsuback]
        exact Nat.zero_le _
    · intro hsuccess
      obtain ⟨hn, htype, decodedLen, readBytesLen, hdecode, hlen, -⟩ :=
        deserializeSuback_accepts hsuccess
      have hcount := h hn htype decodedLen readBytesLen hdecode
      have hall : min (decodedLen - 2) (maxExpectedQoSCount + 1) = decodedLen - 2 := by omega
      refine ⟨decodedLen, readBytesLen, hdecode, ?_, ?_⟩
      · rw [grantedQoSs_deserializeSuback hn htype hdecode, Memory.length_slice, hall]
        omega
      · rw [grantedQoSs_deserializeSuback hn htype hdecode, hall]

/-- A SUBACK with two return codes, where one was allowed: both are stored, and the parser
reports SUCCESS. -/
theorem not_fillsResult_two :
    deserializeSuback 1 (bufferOf [0x90, 4, 0, 1, 0, 1]) 6 = ⟨.success, some 1, [0, 1]⟩ ∧
    ¬ FillsResult 1 (bufferOf [0x90, 4, 0, 1, 0, 1]) 6 := by
  have hrun : deserializeSuback 1 (bufferOf [0x90, 4, 0, 1, 0, 1]) 6 =
      ⟨.success, some 1, [0, 1]⟩ := by decide
  refine ⟨hrun, fun h => ?_⟩
  have hroom := h.room
  rw [hrun] at hroom
  exact absurd hroom (by decide)

/-! ## Subscribe and resubscribe -/

section Run

variable {env : Env} {fuel depth : Nat} {w w' : World} {rc : IoTError} {packet : List UInt8}

theorem lastAnswer_append_resubscribing (t : MessageType) (itr : Nat) (handler : MessageHandlers) :
    ∀ new, lastAnswer t (new ++ [.resubscribing itr handler]) = lastAnswer t new := by
  intro new
  induction new with
  | nil => rfl
  | cons e new ih =>
    cases e with
    | waited t' rc' =>
      cases new with
      | nil => rfl
      | cons e' new => cases e' <;> rfl
    | _ => exact ih

theorem not_lt_or_iff {n : Nat} {p : Prop} : ¬ (5 ≤ n ∧ p) ↔ n < 5 ∨ ¬ p := by
  rw [not_and_or, Nat.not_le]

/-- A subscribe's internal function and the SUBACK it waited for. -/
theorem internalSubscribe_honoured_iff {topicName : CharPtr} {topicNameLen : UInt16} {qos : QoS}
    {handler data : Nat}
    (hrun : (internalSubscribe env fuel (applicationCallbacks env fuel (apiCall env fuel depth))
      topicName topicNameLen qos handler data : M IoTError).run w = .done rc w')
    (hanswer : lastAnswer .suback (w.since w') = some packet) :
    (rc = .success → Granted packet) ↔ w'.client.readBufSize < 5 ∨ ¬ Misjudged packet := by
  rcases (internalSubscribe_judged (serving_logGrows env fuel depth).toCycling topicName
    topicNameLen qos handler data).of_run hrun with
    ⟨-, new, hlog, hnone⟩ | ⟨_, _, _, f, w₁, -, -, hex, hrc, hw'⟩
  · rw [World.since_of_append hlog, hnone] at hanswer
    cases hanswer
  · obtain ⟨new, hlog, hnew⟩ := hex.answer
    have hsize : w'.client.readBufSize = w₁.client.readBufSize := by
      rw [hw']; split <;> rfl
    have hlast : lastAnswer .suback (w.since w') = some f.bytes := by
      rw [hw']
      split
      · have hreg : ∀ slot stored, (w₁.register slot stored).log =
            (.registered slot stored :: new) ++ w.log := fun _ _ => by
          rw [World.log_register, hlog, List.cons_append]
        rw [World.since_of_append (hreg _ _)]
        exact hnew
      · rw [World.since_of_append hlog, hnew]
    rw [hlast] at hanswer
    obtain rfl := Option.some.inj hanswer
    rw [hrc, hsize, ← not_lt_or_iff]
    exact deserializeSuback_honoured_iff hex.held hex.type

/-- A pass of the resubscribe loop and the SUBACK it waited for. -/
theorem resubscribeSlot_honoured_iff {itr : Nat}
    (hrun : (resubscribeSlot env fuel (applicationCallbacks env fuel (apiCall env fuel depth))
      itr : M IoTError).run w = .done rc w')
    (hanswer : lastAnswer .suback (w.since w') = some packet) :
    (rc = .success → Granted packet) ↔ w'.client.readBufSize < 5 ∨ ¬ Misjudged packet := by
  have hsince : ∀ new, w'.log = new ++ (w.push (.resubscribing itr
      (w.client.messageHandlers itr))).log →
      lastAnswer .suback (w.since w') = lastAnswer .suback new := by
    intro new hlog
    rw [World.since_of_append (l := new ++ [.resubscribing itr (w.client.messageHandlers itr)])
      (by rw [hlog]; simp), lastAnswer_append_resubscribing]
  rcases (resubscribeSlot_judged (serving_logGrows env fuel depth).toCycling itr).of_run hrun with
    ⟨-, new, hlog, hnone⟩ | ⟨_, _, _, f, -, hex, hrc⟩
  · rw [hsince new hlog, hnone] at hanswer
    cases hanswer
  · obtain ⟨new, hlog, hnew⟩ := hex.answer
    rw [hsince new hlog, hnew] at hanswer
    obtain rfl := Option.some.inj hanswer
    rw [hrc, ← not_lt_or_iff]
    exact deserializeSuback_honoured_iff hex.held hex.type

/-- A subscribe that returned SUCCESS since `old` stored its handler after a SUBACK that
carried at most two return codes. -/
def SubscribedSince (old log : List Event) : Prop :=
  ∃ slot handler packet codes mid,
    log = .registered slot handler :: .waited .suback .success :: .packetRead packet ::
      (mid ++ old) ∧
    subackCodes packet = some codes ∧ codes.length ≤ 2

theorem subscribe_subscribedSince {callbacks : Callbacks M}
    (hwait : Cycling env callbacks (Keeps LogGrows)) (topicName : Option CharPtr)
    (topicNameLen : UInt16) (qos : QoS) (handler : Option Nat) (data : Nat) :
    (subscribe env fuel callbacks topicName topicNameLen qos handler data : M IoTError).Ends w
      (fun rc w' => rc = .success → SubscribedSince w.log w'.log) (fun _ => True) := by
  unfold subscribe
  split
  case h_2 => exact fun h => absurd h (by decide)
  case h_1 topicName handler =>
    refine request_success .subscribe fun s =>
      (internalSubscribe_judged hwait topicName topicNameLen qos handler data).mono ?_
        (fun _ _ => trivial)
    rintro rc w' (⟨hfail, -⟩ | ⟨_, _, packet, f, w₁, -, -, hex, hrc, rfl⟩) hsuccess
    · exact absurd hsuccess (IoTError.ne_success_of_isError hfail)
    · rw [hsuccess, eq_comm, deserializeSuback_success_iff hex.held hex.type] at hrc
      obtain ⟨-, codes, hcodes, hlen⟩ := hrc
      obtain ⟨mid, pre, hlog⟩ := hex.log
      have htail : mid ++ .sent (sentPart packet) :: (pre ++ (w.withState s).log) =
          (mid ++ .sent (sentPart packet) :: pre) ++ w.log := by simp
      rw [if_pos hsuccess, World.log_register, hlog, htail]
      exact ⟨_, _, f.bytes, codes, _, rfl, hcodes, hlen⟩

end Run

/-- When a SUBACK has been read for a filter, subscribe and resubscribe report SUCCESS
only if the broker granted it, exactly for the SUBACKs that are not misjudged; and a
subscribe call that returns SUCCESS was granted exactly when its SUBACK is not. -/
theorem suback_honoured_iff (env : Env) (fuel depth : Nat) :
    (∀ topicName topicNameLen qos handler data w w' rc packet,
      (internalSubscribe env fuel (applicationCallbacks env fuel (apiCall env fuel depth))
        topicName topicNameLen qos handler data : M IoTError).run w = .done rc w' →
      lastAnswer .suback (w.since w') = some packet →
      ((rc = .success → Granted packet) ↔ w'.client.readBufSize < 5 ∨ ¬ Misjudged packet)) ∧
    (∀ itr w w' rc packet,
      (resubscribeSlot env fuel (applicationCallbacks env fuel (apiCall env fuel depth))
        itr : M IoTError).run w = .done rc w' →
      lastAnswer .suback (w.since w') = some packet →
      ((rc = .success → Granted packet) ↔ w'.client.readBufSize < 5 ∨ ¬ Misjudged packet)) ∧
    (∀ topicName topicNameLen qos handler data w w',
      (apiCall env fuel depth (.subscribe topicName topicNameLen qos handler data) :
        M IoTError).run w = .done .success w' →
      ∃ packet slot stored, lastAnswer .suback (w.since w') = some packet ∧
        .registered slot stored ∈ w.since w' ∧ (Granted packet ↔ ¬ Misjudged packet)) := by
  refine ⟨?_, ?_, ?_⟩
  · intro _ _ _ _ _ _ _ _ _ hrun hanswer
    exact internalSubscribe_honoured_iff hrun hanswer
  · intro _ _ _ _ _ hrun hanswer
    exact resubscribeSlot_honoured_iff hrun hanswer
  · intro topicName topicNameLen qos handler data w w' hrun
    obtain ⟨w₁, hsub, rfl⟩ := apiCall_done hrun fun depth =>
      subscribe_subscribedSince (serving_logGrows env fuel depth).toCycling topicName
        topicNameLen qos handler data
    obtain ⟨slot, stored, packet, codes, mid, hlog, hcodes, hlen⟩ := hsub rfl
    have hsince : w.since (w₁.push (.returned
          (.subscribe topicName topicNameLen qos handler data) .success)) =
        .returned (.subscribe topicName topicNameLen qos handler data) .success ::
          .registered slot stored :: .waited .suback .success :: .packetRead packet ::
            (mid ++ [.called (.subscribe topicName topicNameLen qos handler data)]) :=
      World.since_of_append (by rw [World.log_push, hlog]; simp)
    rw [hsince]
    exact ⟨packet, slot, stored, by simp [lastAnswer], by simp,
      granted_iff_of_length hcodes hlen⟩

/-! ## A refused subscription -/

/-- A subscribe to filter `t` with QoS 1. -/
def plainSubscribe : ApiCall := .subscribe (some ⟨[0x74]⟩) 1 .qos1 (some 1) 0

/-- The next packet to arrive is a SUBACK with the single return code `code`. -/
def subackEnv (code : UInt8) : Env := sessionEnv [(15, [0x90, 3, 0, 2, code])]

/-- The subscribe, on a client that has just connected. -/
def subscribeRun (code : UInt8) : Outcome World IoTError :=
  (apiCall (subackEnv code) 8 8 plainSubscribe : M IoTError).run (World.connected (subackEnv code))

/-- What the log of the subscribe shows. -/
def subscribeLog (code : UInt8) : List Event :=
  (World.connected (subackEnv code)).since (subscribeRun code).state

/-- A subscribe that is granted QoS 1 returns SUCCESS rightly. -/
theorem suback_honoured_granted :
    ∃ packet slot stored, lastAnswer .suback (subscribeLog 1) = some packet ∧
      .registered slot stored ∈ subscribeLog 1 ∧ (Granted packet ↔ ¬ Misjudged packet) :=
  (suback_honoured_iff (subackEnv 1) 8 8).2.2 (some ⟨[0x74]⟩) 1 .qos1 (some 1) 0 _ _
    (run_eq_done (by decide +kernel))

/-- A subscribe that is refused with 0x80 returns SUCCESS and stores its handler. -/
theorem suback_refused_success :
    (subscribeRun 0x80).value? = some .success ∧
    (∃ slot stored, .registered slot stored ∈ subscribeLog 0x80) ∧
    lastAnswer .suback (subscribeLog 0x80) = some [0x90, 3, 0, 2, 0x80] ∧
    ¬ Granted [0x90, 3, 0, 2, 0x80] := by
  have hcodes : subackCodes [0x90, 3, 0, 2, 0x80] = some [0x80] := by decide +kernel
  refine ⟨by decide +kernel, ⟨0, ⟨some ⟨[0x74]⟩, 1, .qos1, some 1, 0⟩, by decide +kernel⟩,
    by decide +kernel, ?_⟩
  rintro ⟨code, hcode, hle⟩
  rw [hcodes] at hcode
  obtain rfl : 0x80 = code := by simpa using hcode
  exact absurd hle (by decide)

end AwsIot.Mqtt
