/-
  Mqtt/ConnectPacket.lean --- what a CONNECT packet says.

  `decodeConnect` reads a packet by the CONNECT layout of MQTT 3.1.1.  The
  serializer writes what its options say (`decodeConnect_serializeConnect`), but
  `aws_iot_mqtt_set_connect_params` takes the password's pointer from the user
  name, so the packet that `aws_iot_mqtt_connect` sends carries the first
  `passwordLen` bytes at the user name's address as the password.
-/
import AwsIot.Mqtt.Relations
import AwsIot.Mqtt.SendPacket
import AwsIot.Mqtt.Wire

set_option autoImplicit false

namespace AwsIot.Mqtt

open AwsIot.Foundation Reader Program

/-! ## The CONNECT layout -/

/-- The last will of a CONNECT packet. -/
structure WillFields where
  /-- The will topic. -/
  topic : List UInt8
  /-- The will message. -/
  message : List UInt8
  /-- The will's quality of service. -/
  qos : UInt8
  /-- The will's retain flag. -/
  retain : Bool
  deriving DecidableEq, Repr

/-- What a CONNECT packet says; a field is `none` when its flag is not set. -/
structure ConnectFields where
  /-- The client id. -/
  clientId : List UInt8
  /-- The clean-session flag. -/
  cleanSession : Bool
  /-- The keep-alive interval in seconds. -/
  keepAlive : UInt16
  /-- The last will. -/
  will : Option WillFields
  /-- The user name. -/
  username : Option (List UInt8)
  /-- The password. -/
  password : Option (List UInt8)
  deriving DecidableEq, Repr

/-- Bit `i` of a flags byte. -/
def flagBit (flags : UInt8) (i : UInt8) : Bool := (flags >>> i) &&& 1 == 1

/-- Read a field that is there exactly when its flag is set. -/
def readIf {α : Type} (present : Bool) (p : Reader α) : Reader (Option α) :=
  if present then do return some (← p) else return none

/-- Read the will; without a will its flags are zero. -/
def readWill (flags : UInt8) : Reader (Option WillFields) :=
  if flagBit flags 2 then do
    let topic ← readString
    let message ← readString
    return some ⟨topic, message, (flags >>> 3) &&& 3, flagBit flags 5⟩
  else do
    check (flags &&& 0x38 == 0)
    return none

/-- Read the variable header and the payload of a CONNECT packet. -/
def readConnectBody : Reader ConnectFields := do
  let name ← readString
  check (name == [0x4D, 0x51, 0x54, 0x54])
  let level ← byte
  check (level == 4)
  let flags ← byte
  check (!flagBit flags 0)
  let keepAlive ← uint16
  let clientId ← readString
  let will ← readWill flags
  let username ← readIf (flagBit flags 7) readString
  let password ← readIf (flagBit flags 6) readString
  return ⟨clientId, flagBit flags 1, keepAlive, will, username, password⟩

/-- Read the fixed header of a CONNECT packet: the remaining length. -/
def readConnectHeader : Reader Nat := do
  let header ← byte
  check (header == 0x10)
  base128 4

/-- Decode a whole CONNECT packet. -/
def decodeConnect (packet : List UInt8) : Option ConnectFields :=
  match readConnectHeader.run packet with
  | some (len, body) => if len = body.length then readConnectBody.readAll body else none
  | none => none

/-! ## What the caller asks for -/

/-- The will that connect parameters ask for. -/
def ConnectParams.askedWill (params : ConnectParams) : Option WillFields :=
  if params.isWillMsgPresent then
    some ⟨stringAt params.will.pTopicName params.will.topicNameLen,
      stringAt params.will.pMessage params.will.msgLen, params.will.qos.toByte,
      params.will.isRetained⟩
  else none

/-- The CONNECT packet that connect parameters ask for. -/
def ConnectParams.asked (params : ConnectParams) : ConnectFields where
  clientId := stringAt params.pClientID params.clientIDLen
  cleanSession := params.isCleanSession
  keepAlive := params.keepAliveIntervalInSec
  will := params.askedWill
  username := params.pUsername.map (·.take params.usernameLen.toNat)
  password := params.pPassword.map (·.take params.passwordLen.toNat)

/-! ## The serializer -/

section Serializer

variable {params : ConnectParams}

/-- The flags byte says which fields are there. -/
theorem connectFlags_bits (params : ConnectParams) :
    flagBit (connectFlags params) 0 = false ∧
    flagBit (connectFlags params) 1 = params.isCleanSession ∧
    flagBit (connectFlags params) 2 = params.isWillMsgPresent ∧
    (params.isWillMsgPresent = true →
      (connectFlags params >>> 3) &&& 3 = params.will.qos.toByte ∧
      flagBit (connectFlags params) 5 = params.will.isRetained) ∧
    (params.isWillMsgPresent = false → connectFlags params &&& 0x38 = 0) ∧
    flagBit (connectFlags params) 6 = params.pPassword.isSome ∧
    flagBit (connectFlags params) 7 = params.pUsername.isSome := by
  unfold connectFlags
  cases params.isCleanSession <;> cases params.isWillMsgPresent <;>
    cases params.will.qos <;> cases params.will.isRetained <;>
    cases params.pUsername.isSome <;> cases params.pPassword.isSome <;> decide

/-- The fields behind the remaining length, one by one. -/
theorem connectBody_parts {body : List UInt8} (h : connectBody params = some body) :
    ∃ name clientID will username password,
      writeUtf8String (some protocolName) 4 = some name ∧
      writeClientID params = some clientID ∧ writeWill params = some will ∧
      writeCredential params.pUsername params.usernameLen = some username ∧
      writeCredential params.pPassword params.passwordLen = some password ∧
      body = name ++ ([params.mqttVersion.toByte] ++ ([connectFlags params] ++
        (writeUint16 params.keepAliveIntervalInSec ++
          (clientID ++ (will ++ (username ++ password)))))) := by
  unfold connectBody at h
  simp only [Option.bind_eq_bind, Option.bind_eq_some_iff, Option.pure_def,
    Option.some.injEq] at h
  obtain ⟨name, hname, clientID, hid, will, hwill, username, huser, password, hpass, rfl⟩ := h
  exact ⟨name, clientID, will, username, password, hname, hid, hwill, huser, hpass, rfl⟩

theorem reads_clientID {bytes : List UInt8} (h : writeClientID params = some bytes) :
    Reads readString bytes (stringAt params.pClientID params.clientIDLen) := by
  unfold writeClientID at h
  cases hid : params.pClientID with
  | none =>
    rw [hid] at h
    obtain rfl := Option.some.inj h
    exact reads_emptyString
  | some id =>
    rw [hid] at h
    exact reads_writeUtf8String h

theorem reads_will {bytes : List UInt8} (h : writeWill params = some bytes) :
    Reads (readWill (connectFlags params)) bytes params.askedWill := by
  obtain ⟨-, -, hwill, hset, hunset, -, -⟩ := connectFlags_bits params
  unfold writeWill at h
  unfold readWill ConnectParams.askedWill
  rw [hwill]
  cases hp : params.isWillMsgPresent with
  | true =>
    rw [hp, if_pos rfl] at h
    obtain ⟨topic, htopic, h⟩ := Option.bind_eq_some_iff.mp h
    obtain ⟨message, hmessage, h⟩ := Option.bind_eq_some_iff.mp h
    obtain rfl := Option.some.inj h
    obtain ⟨hqos, hretain⟩ := hset hp
    rw [if_pos rfl, if_pos rfl]
    apply (reads_writeUtf8String htopic).bind
    have hmsg := (reads_writeUtf8String hmessage).bind (d := []) (f := fun message =>
      pure (some (WillFields.mk (stringAt params.will.pTopicName params.will.topicNameLen) message
        ((connectFlags params >>> 3) &&& 3) (flagBit (connectFlags params) 5)))) (Reads.pure _)
    rw [List.append_nil] at hmsg
    rw [← hqos, ← hretain]
    exact hmsg
  | false =>
    rw [hp] at h
    obtain rfl : [] = bytes := by simpa using h
    rw [if_neg (by decide), if_neg (by decide)]
    exact (Reads.check (by simp [hunset hp])).bind (Reads.pure none)

theorem reads_credential {string : Option CharPtr} {len : UInt16} {bytes : List UInt8}
    (h : writeCredential string len = some bytes) :
    Reads (readIf string.isSome readString) bytes (string.map (·.take len.toNat)) := by
  unfold writeCredential at h
  cases string with
  | none =>
    obtain rfl : [] = bytes := by simpa using h
    exact Reads.pure none
  | some p =>
    rw [Option.isSome_some, if_pos rfl] at h
    have hread := (reads_writeUtf8String h).bind (d := []) (f := fun x => pure (some x))
      (Reads.pure _)
    rw [List.append_nil] at hread
    exact hread

/-- Reading back the variable header and the payload. -/
theorem reads_connectBody {body : List UInt8} (hversion : params.mqttVersion = .mqtt311)
    (h : connectBody params = some body) : Reads readConnectBody body params.asked := by
  obtain ⟨hreserved, hclean, -, -, -, hpassword, husername⟩ := connectFlags_bits params
  obtain ⟨name, clientID, will, username, password, hname, hid, hwill, huser, hpass, rfl⟩ :=
    connectBody_parts h
  unfold readConnectBody
  apply (reads_writeUtf8String hname).bind
  apply Reads.bind (b := []) (Reads.check (by decide))
  apply (Reads.byte _).bind
  apply Reads.bind (b := []) (Reads.check (by rw [hversion]; rfl))
  apply (Reads.byte _).bind
  apply Reads.bind (b := []) (Reads.check (by rw [hreserved]; rfl))
  apply (reads_writeUint16 _).bind
  apply (reads_clientID hid).bind
  apply (reads_will hwill).bind
  rw [husername, hpassword, hclean]
  apply (reads_credential huser).bind
  have hlast := (reads_credential hpass).bind (d := []) (f := fun password =>
    pure (ConnectFields.mk (stringAt params.pClientID params.clientIDLen) params.isCleanSession
      params.keepAliveIntervalInSec params.askedWill
      (params.pUsername.map (·.take params.usernameLen.toNat)) password)) (Reads.pure _)
  rw [List.append_nil] at hlast
  exact hlast

theorem length_writeCredential {string : Option CharPtr} {len : UInt16} {bytes : List UInt8}
    (h : writeCredential string len = some bytes) :
    bytes.length = if string.isSome then len.toNat + 2 else 0 := by
  unfold writeCredential at h
  split at h
  case isTrue hs => rw [length_writeUtf8String h, if_pos hs]; omega
  case isFalse hs =>
    obtain rfl := Option.some.inj h
    rw [if_neg hs]; rfl

theorem length_writeWill {bytes : List UInt8} (h : writeWill params = some bytes) :
    bytes.length = if params.isWillMsgPresent then
      params.will.topicNameLen.toNat + 2 + params.will.msgLen.toNat + 2 else 0 := by
  unfold writeWill at h
  split at h
  case isTrue hp =>
    obtain ⟨topic, htopic, h⟩ := Option.bind_eq_some_iff.mp h
    obtain ⟨message, hmessage, h⟩ := Option.bind_eq_some_iff.mp h
    obtain rfl := Option.some.inj h
    rw [List.length_append, length_writeUtf8String htopic, length_writeUtf8String hmessage,
      if_pos hp]
    omega
  case isFalse hp =>
    obtain rfl := Option.some.inj h
    rw [if_neg hp]; rfl

theorem length_writeClientID {bytes : List UInt8}
    (hid : params.pClientID = none → params.clientIDLen = 0)
    (h : writeClientID params = some bytes) : bytes.length = params.clientIDLen.toNat + 2 := by
  unfold writeClientID at h
  cases hc : params.pClientID with
  | none =>
    rw [hc] at h
    obtain rfl := Option.some.inj h
    rw [hid hc]; rfl
  | some id =>
    rw [hc] at h
    rw [length_writeUtf8String h]; omega

/-- The length computed beforehand is the length written. -/
theorem length_connectBody {body : List UInt8}
    (hid : params.pClientID = none → params.clientIDLen = 0)
    (h : connectBody params = some body) : body.length = getConnectPacketLength params := by
  obtain ⟨name, clientID, will, username, password, hname, hcid, hwill, huser, hpass, rfl⟩ :=
    connectBody_parts h
  have hname' := length_writeUtf8String hname
  have hcid' := length_writeClientID hid hcid
  have hwill' := length_writeWill hwill
  have huser' := length_writeCredential huser
  have hpass' := length_writeCredential hpass
  have hfour : (4 : UInt16).toNat = 4 := rfl
  simp only [List.length_append, List.length_cons, List.length_nil, writeUint16]
  unfold getConnectPacketLength
  dsimp only
  split <;> split <;> split <;> simp_all <;> omega

theorem getConnectPacketLength_lt (params : ConnectParams) :
    getConnectPacketLength params < 128 ^ 3 := by
  have h1 := params.clientIDLen.toNat_lt
  have h2 := params.will.topicNameLen.toNat_lt
  have h3 := params.will.msgLen.toNat_lt
  have h4 := params.usernameLen.toNat_lt
  have h5 := params.passwordLen.toNat_lt
  unfold getConnectPacketLength
  dsimp only
  split <;> split <;> split <;> omega

/-- What the serializer writes when it succeeds. -/
theorem serializeConnect_packet {txBufLen : Nat} {bytes : List UInt8}
    (h : serializeConnect txBufLen params = .packet bytes) :
    ∃ body, connectBody params = some body ∧ params.mqttVersion = .mqtt311 ∧
      (params.pClientID = none → params.clientIDLen = 0) ∧
      bytes = 0x10 :: (writeLenToBuffer (getConnectPacketLength params) ++ body) := by
  unfold serializeConnect at h
  split at h
  case isTrue => simp at h
  case isFalse hid =>
    split at h
    case h_1 => simp at h
    case h_2 hversion =>
      dsimp only at h
      split at h
      case isTrue => simp at h
      case isFalse =>
        have hheader : initHeader .connect .qos0 0 0 = .ok 0x10 := rfl
        rw [hheader] at h
        cases hbody : connectBody params with
        | none => simp [hbody, Serialized.ofBytes] at h
        | some body =>
          refine ⟨body, rfl, hversion, fun hnone => ?_, ?_⟩
          · refine Decidable.byContradiction fun hne => hid (.inl ⟨?_, hne⟩)
            simp [hnone]
          · simpa [hbody, Serialized.ofBytes, eq_comm] using h

/-- A CONNECT packet decodes to what its options ask for. -/
theorem decodeConnect_serializeConnect {txBufLen : Nat} {bytes : List UInt8}
    (h : serializeConnect txBufLen params = .packet bytes) :
    decodeConnect bytes = some params.asked := by
  obtain ⟨body, hbody, hversion, hid, rfl⟩ := serializeConnect_packet h
  have hlt := getConnectPacketLength_lt params
  have hheader : Reads readConnectHeader
      ([0x10] ++ writeLenToBuffer (getConnectPacketLength params))
      (getConnectPacketLength params) := by
    apply (Reads.byte _).bind
    apply Reads.bind (b := []) (Reads.check (by decide))
    exact reads_writeLenToBuffer (by omega)
  have hrun := hheader body
  unfold decodeConnect
  rw [List.append_assoc] at hrun
  rw [← List.singleton_append, hrun]
  dsimp only
  rw [if_pos (length_connectBody hid hbody).symm]
  exact (reads_connectBody hversion hbody).readAll

end Serializer

/-! ## The packet a connect sends -/

section Run

variable {env : Env} {fuel : Nat} {callbacks : Callbacks M} {options : ConnectParams}
  {start w : World}

/-- The first packet sent in a stretch of the log. -/
def firstSending : List Event → Option (List UInt8)
  | [] => none
  | e :: log =>
      match firstSending log with
      | some packet => some packet
      | none => match e with
        | .sending packet => some packet
        | _ => none

theorem firstSending_append (new old : List Event) {packet : List UInt8}
    (h : firstSending old = some packet) : firstSending (new ++ old) = some packet := by
  induction new with
  | nil => exact h
  | cons e new ih => simp [firstSending, ih]

/-- Nothing was sent since `start`. -/
def NothingSent (start w : World) : Prop :=
  ∃ new, w.log = new ++ start.log ∧ firstSending new = none

/-- The first packet sent since `start` is a CONNECT packet for `options`. -/
def ConnectSent (options : ConnectParams) (start w : World) : Prop :=
  ∃ new packet txBufLen, w.log = new ++ start.log ∧ firstSending new = some packet ∧
    serializeConnect txBufLen options = .packet packet

theorem NothingSent.refl (w : World) : NothingSent w w := ⟨[], rfl, rfl⟩

theorem NothingSent.push (h : NothingSent start w) {e : Event}
    (he : firstSending [e] = none) : NothingSent start (w.push e) := by
  obtain ⟨new, hlog, hnone⟩ := h
  refine ⟨e :: new, by simp [hlog], ?_⟩
  simpa [firstSending, hnone] using he

theorem ConnectSent.grows (h : ConnectSent options start w) {w' : World}
    (hw : LogGrows w w') : ConnectSent options start w' := by
  obtain ⟨new, packet, txBufLen, hlog, hfirst, hser⟩ := h
  obtain ⟨more, hmore⟩ := hw
  refine ⟨more ++ new, packet, txBufLen, ?_, firstSending_append more new hfirst, hser⟩
  rw [← hmore, hlog, List.append_assoc]

/-- Either nothing was sent since `start`, or a CONNECT packet for `options` was
the first. -/
def ConnectFirst (options : ConnectParams) (start w : World) : Prop :=
  NothingSent start w ∨ ConnectSent options start w

theorem ConnectFirst.push (h : ConnectFirst options start w) {e : Event}
    (he : firstSending [e] = none) : ConnectFirst options start (w.push e) := by
  rcases h with h | h
  · exact .inl (h.push he)
  · exact .inr (h.grows (List.suffix_cons e w.log))

/-- Once the CONNECT packet is out, whatever the client does keeps it the first. -/
theorem ConnectSent.ends {α : Type} {m : M α} (hm : Keeps LogGrows m)
    (h : ConnectSent options start w) :
    m.Ends w (fun _ => ConnectFirst options start) (ConnectFirst options start) :=
  (hm w).mono (fun _ _ hw => .inr (h.grows hw)) (fun _ hw => .inr (h.grows hw))

theorem sendPacket_connectFirst {packet : List UInt8} {txBufLen : Nat} {timer : Timer}
    (h : NothingSent start w) (hser : serializeConnect txBufLen options = .packet packet)
    (hbuf : w.client.writeBuf.slice 0 packet.length = packet) :
    (sendPacket env fuel packet.length timer : M IoTError).Ends w
      (fun rc w' => ConnectSent options start w' ∨ rc ≠ .success ∧ NothingSent start w')
      (ConnectFirst options start) := by
  by_cases hlen : packet.length < w.client.writeBufSize
  · rw [ends_sendPacket hlen]
    have hsent : ConnectSent options start (w.push (sendingEvent packet.length w)) := by
      obtain ⟨new, hlog, hnone⟩ := h
      refine ⟨sendingEvent packet.length w :: new, packet, txBufLen, by simp [hlog], ?_, hser⟩
      simp [firstSending, hnone, sendingEvent, hbuf]
    have hloop := (logGrows env).loop ((logGrows env).sendPass env packet.length timer) fuel 0
    refine (hloop _).mono ?_ (fun w' hw => .inr (hsent.grows hw))
    intro sent w' hw
    split
    · exact .inl ((hsent.grows hw).grows (List.suffix_cons _ _))
    · exact .inl (hsent.grows hw)
  · have hge : packet.length ≥ w.client.writeBufSize := Nat.le_of_not_lt hlen
    simp [sendPacket, hge, h]

theorem length_serializeConnect_lt {txBufLen : Nat} {packet : List UInt8}
    (h : serializeConnect txBufLen options = .packet packet) : packet.length < 2 ^ 32 := by
  obtain ⟨body, hbody, -, hid, rfl⟩ := serializeConnect_packet h
  have hlen := length_connectBody hid hbody
  have hlt := getConnectPacketLength_lt options
  have hdigits := length_writeLenDigits_le 5 (getConnectPacketLength options)
  simp only [List.length_cons, List.length_append, writeLenToBuffer]
  omega

theorem exchangeConnect_connectFirst (h : NothingSent start w) (hopt : w.client.options = options)
    (hawait : ∀ timer, Keeps LogGrows (awaitConnack env fuel callbacks timer : M IoTError)) :
    (exchangeConnect env fuel callbacks : M IoTError).Ends w
      (fun _ => ConnectFirst options start) (ConnectFirst options start) := by
  subst hopt
  unfold exchangeConnect
  simp only [ends_bind, ends_getClient, ends_countdownMs, ends_modifyClient, ends_storePacket,
    World.client_onClient, World.client_tick]
  cases hser : serializeConnect w.client.writeBufSize w.client.options with
  | fault => exact .inl h
  | error rc => exact .inl h
  | packet packet =>
    have hpos : packet.length ≠ 0 := by
      obtain ⟨body, -, -, -, rfl⟩ := serializeConnect_packet hser
      simp
    have hmod : packet.length % 2 ^ 32 = packet.length :=
      Nat.mod_eq_of_lt (length_serializeConnect_lt hser)
    dsimp only
    rw [hmod, if_neg hpos]
    refine ends_bind.mpr ((sendPacket_connectFirst ?_ hser ?_).mono ?_ (fun _ hw => hw))
    · exact h
    · show (Memory.writeAt w.client.writeBuf 0 packet).slice 0 packet.length = packet
      exact Memory.slice_writeAt_self
    · intro rc w' hw
      split
      case isTrue =>
        exact hw.elim .inr fun hw => .inl hw.2
      case isFalse hrc =>
        rcases hw with hw | hw
        · exact hw.ends (hawait _)
        · exact absurd hw.1 hrc

theorem internalConnect_connectFirst (params : ConnectParams) (h : NothingSent start w)
    (hawait : ∀ timer, Keeps LogGrows (awaitConnack env fuel callbacks timer : M IoTError)) :
    (internalConnect env fuel callbacks (some params) : M IoTError).Ends w
      (fun _ => ConnectFirst (copyConnectParams params) start)
      (ConnectFirst (copyConnectParams params) start) := by
  unfold internalConnect overrideOptions setConnectParams
  simp only [ends_bind, ends_modifyClient, ends_pure]
  rw [if_neg (by simp)]
  simp only [ends_bind, ends_netConnect]
  split
  · exact .inl (NothingSent.push h rfl)
  · exact exchangeConnect_connectFirst (NothingSent.push h rfl) rfl hawait

theorem connect_connectFirst (params : ConnectParams) (h : NothingSent start w)
    (hawait : ∀ timer, Keeps LogGrows (awaitConnack env fuel callbacks timer : M IoTError)) :
    (connect env fuel callbacks (some params) : M IoTError).Ends w
      (fun _ => ConnectFirst (copyConnectParams params) start)
      (ConnectFirst (copyConnectParams params) start) := by
  have hinternal : ∀ w, NothingSent start w →
      (internalConnect env fuel callbacks (some params) : M IoTError).Ends w
        (fun _ => ConnectFirst (copyConnectParams params) start)
        (ConnectFirst (copyConnectParams params) start) :=
    fun _ h => internalConnect_connectFirst params h hawait
  unfold connect connectRequest
  simp only [ends_bind, ends_getClientState, ends_ite, ends_pure, ends_setClientState, ends_within]
  split
  · exact .inl h
  · rw [if_pos trivial]
    refine (hinternal (w.withState .connecting) h).mono ?_ (fun _ hw => hw)
    intro rc w' hw
    simp only [ends_emit, ends_netDisconnect, ends_netDestroy]
    split
    · have hclean := ((hw.push (e := .connectCleanup w'.client.clientState) rfl).push
        (e := .netDisconnect) rfl).push (e := .netDestroy (env.destroy w'.time)) rfl
      split
      · exact hclean
      · exact hclean
    · split
      · exact hw.push (e := .connectDone .connectedIdle) rfl
      · exact hw.push (e := .connectDone w'.client.clientState) rfl

/-- A connect call sends nothing before the CONNECT packet for its options. -/
theorem apiCall_connectFirst (depth : Nat) (params : ConnectParams) :
    ConnectFirst (copyConnectParams params) w
      ((apiCall env fuel (depth + 1) (.connect (some params)) : M IoTError).run w).state := by
  have hwaiting := (serving_logGrows env fuel depth).toCycling
  apply (ends_state_iff (P := ConnectFirst (copyConnectParams params) w)).mp
  unfold apiCall
  simp only [ends_bind, ends_emit, ends_within, ends_pure]
  have hstart : NothingSent w (w.push (.called (.connect (some params)))) :=
    (NothingSent.refl w).push rfl
  have hawait : ∀ timer, Keeps LogGrows (awaitConnack env fuel
      (applicationCallbacks env fuel (apiCall env fuel depth)) timer : M IoTError) :=
    hwaiting.awaitConnack fuel (logGrows_steps env).toTrafficSteps.modifyTimer
  refine (connect_connectFirst params hstart hawait).mono ?_ (fun _ hw => hw)
  intro rc w' hw
  exact hw.push rfl

/-- The password that the caller asks for is what stands at the user name's
address. -/
def ConnectParams.PasswordAtUsername (params : ConnectParams) : Prop :=
  params.pUsername.map (·.take params.passwordLen.toNat) =
    params.pPassword.map (·.take params.passwordLen.toNat)

instance (params : ConnectParams) : Decidable params.PasswordAtUsername :=
  inferInstanceAs (Decidable (_ = _))

theorem asked_copyConnectParams (params : ConnectParams) :
    (copyConnectParams params).asked = params.asked ↔ params.PasswordAtUsername := by
  have hcopy : (copyConnectParams params).asked = { params.asked with
      password := params.pUsername.map (·.take params.passwordLen.toNat) } := rfl
  rw [hcopy]
  simp [ConnectParams.asked, ConnectParams.PasswordAtUsername]

/-- The CONNECT packet of a connect call says what the caller asked for exactly
when the password stands at the user name's address. -/
theorem connect_says_asked_iff (env : Env) (fuel depth : Nat) (params : ConnectParams)
    (w : World) (packet : List UInt8)
    (hsent : firstSending (w.since ((apiCall env fuel (depth + 1) (.connect (some params)) :
      M IoTError).run w).state) = some packet) :
    decodeConnect packet = some params.asked ↔ params.PasswordAtUsername := by
  have hfirst : ConnectFirst (copyConnectParams params) w
      ((apiCall env fuel (depth + 1) (.connect (some params)) : M IoTError).run w).state :=
    apiCall_connectFirst depth params
  rcases hfirst with h | h
  · obtain ⟨new, hlog, hnone⟩ := h
    rw [World.since_of_append hlog, hnone] at hsent
    simp at hsent
  · obtain ⟨new, sent, txBufLen, hlog, hfirst, hser⟩ := h
    rw [World.since_of_append hlog, hfirst] at hsent
    obtain rfl := Option.some.inj hsent
    rw [decodeConnect_serializeConnect hser, Option.some.injEq]
    exact asked_copyConnectParams params

end Run

/-! ## Sessions with a user name and a password -/

/-- Plain connect parameters with a user name and a password. -/
def withCredentials (username password : CharPtr) : ConnectParams :=
  { plainConnect with
    pUsername := some username
    usernameLen := UInt16.ofNat username.bytes.length
    pPassword := some password
    passwordLen := UInt16.ofNat password.bytes.length }

/-- The first packet a connect sends after a first init, when all goes well. -/
def firstConnect (params : ConnectParams) : Option (List UInt8) :=
  let w := World.after quietEnv 4 [.init plainInit]
  firstSending (w.since ((apiCall quietEnv 4 1 (.connect (some params)) : M IoTError).run w).state)

/-- With the same bytes for user name and password the packet is right. -/
theorem connect_says_asked_same :
    decodeConnect [16, 19, 0, 4, 77, 81, 84, 84, 4, 194, 0, 60, 0, 1, 99, 0, 1, 117, 0, 1, 117] =
      some (withCredentials ⟨[117]⟩ ⟨[117]⟩).asked :=
  (connect_says_asked_iff quietEnv 4 0 (withCredentials ⟨[117]⟩ ⟨[117]⟩)
    (World.after quietEnv 4 [.init plainInit]) _ (by decide +kernel)).mpr (by decide)

/-- A client with user name `u` and password `p` sends `u` as its password. -/
theorem connect_says_other_password :
    ∃ packet fields, firstConnect (withCredentials ⟨[117]⟩ ⟨[112]⟩) = some packet ∧
      decodeConnect packet = some fields ∧
      (withCredentials ⟨[117]⟩ ⟨[112]⟩).asked.password = some [112] ∧
      fields.password = some [117] ∧
      decodeConnect packet ≠ some (withCredentials ⟨[117]⟩ ⟨[112]⟩).asked :=
  ⟨[16, 19, 0, 4, 77, 81, 84, 84, 4, 194, 0, 60, 0, 1, 99, 0, 1, 117, 0, 1, 117],
    { (withCredentials ⟨[117]⟩ ⟨[112]⟩).asked with password := some [117] },
    by decide +kernel, by decide +kernel, by decide, rfl, by decide +kernel⟩

end AwsIot.Mqtt
