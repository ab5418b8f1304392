/-
  Shadow/BuilderMembers.lean --- what the builder does with a list of members.

  A member is added, or it ends the call, or it is stored past the size that the call was
  given.  Which of these it is depends on the size that is left in front of its key.  The
  loop counter has eight bits and a sign, so that it stays below a count of 128 or more.
-/
import AwsIot.Shadow.Builder

set_option autoImplicit false

namespace AwsIot.Shadow

open AwsIot.Foundation AwsIot.Mqtt Program

/-! ## Steps -/

namespace Draft

/-- `s` is printed whole at the end of the document. -/
def append (d : Draft) (s : CString) : Draft :=
  { d with buffer :=
      { text := d.buffer.text ++ s
        extent := max d.buffer.extent (d.buffer.text.length + s.length + 1) } }

/-- `n` arguments are read. -/
def read (d : Draft) (n : Nat) : Draft := { d with argumentsRead := d.argumentsRead + n }

@[simp] theorem text_append (d : Draft) (s : CString) :
    (d.append s).buffer.text = d.buffer.text ++ s := rfl

@[simp] theorem text_read (d : Draft) (n : Nat) : (d.read n).buffer = d.buffer := rfl

@[simp] theorem argumentsRead_append (d : Draft) (s : CString) :
    (d.append s).argumentsRead = d.argumentsRead := rfl

@[simp] theorem argumentsRead_read (d : Draft) (n : Nat) :
    (d.read n).argumentsRead = d.argumentsRead + n := rfl

theorem append_append (d : Draft) (s t : CString) :
    (d.append s).append t = d.append (s ++ t) := by
  unfold append
  congr 2
  · exact CString.append_assoc _ _ _
  · simp only [CString.length_append]
    omega

theorem append_read (d : Draft) (s : CString) (n : Nat) :
    (d.read n).append s = (d.append s).read n := rfl

theorem read_read (d : Draft) (m n : Nat) : (d.read m).read n = d.read (m + n) := by
  unfold read
  rw [Nat.add_assoc]

end Draft

variable {d : Draft} {offset size limit : Nat} {s : CString}

@[simp] theorem ends_strlen {Q : Nat → Draft → Prop} {H : Draft → Prop} :
    strlen.Ends d Q H ↔ Q d.buffer.text.length d := Iff.rfl

@[simp] theorem ends_lastOffset {Q : Nat → Draft → Prop} {H : Draft → Prop} :
    lastOffset.Ends d Q H ↔
      if d.buffer.text.length = 0 then H d else Q (d.buffer.text.length - 1) d := by
  rw [lastOffset, ends_bind, ends_strlen, ends_ite]
  rfl

@[simp] theorem ends_snprintfChecked {Q : IoTError → Draft → Prop} {H : Draft → Prop} :
    (snprintfChecked offset size s).Ends d Q H ↔
      Q (checkReturnValueOfSnPrintf (printResult s) size)
        { d with buffer := d.buffer.print offset size s } := Iff.rfl

@[simp] theorem ends_fillWithClientTokenSize {env : BuilderEnv} {Q : IoTError → Draft → Prop}
    {H : Draft → Prop} :
    (fillWithClientTokenSize env offset size).Ends d Q H ↔
      Q (checkReturnValueOfSnPrintf (printResult (clientToken env d.clientTokenNum)) size)
        { d with
          buffer := d.buffer.print offset size (clientToken env d.clientTokenNum)
          clientTokenNum := d.clientTokenNum + 1 } := Iff.rfl

/-- What `snprintf` returns passes the check if the string fits the size and an `int`. -/
theorem check_printResult_iff :
    checkReturnValueOfSnPrintf (printResult s) size = .success ↔
      s.length < size ∧ s.length < 2 ^ 31 := by
  unfold printResult
  split
  case isTrue hint =>
    have hlength : ¬ ((s.length : Int) < 0) := by omega
    rw [checkReturnValueOfSnPrintf, if_neg hlength, Int.toNat_natCast]
    split
    · exact ⟨nofun, fun h => absurd h.1 (by omega)⟩
    · exact ⟨fun _ => ⟨by omega, hint⟩, fun _ => rfl⟩
  case isFalse hint =>
    rw [checkReturnValueOfSnPrintf, if_pos (by decide)]
    exact ⟨nofun, fun h => absurd h.2 hint⟩

/-- A string that fits is printed at the end of the document. -/
theorem run_snprintfChecked (hsize : s.length < size) (hint : s.length < 2 ^ 31) :
    (snprintfChecked d.buffer.text.length size s).run d = .done .success (d.append s) := by
  show Outcome.done (checkReturnValueOfSnPrintf (printResult s) size) _ = _
  rw [check_printResult_iff.mpr ⟨hsize, hint⟩]
  unfold Draft.append TextBuffer.print
  rw [if_neg (by omega), CString.take_of_length_le (s := s) (by omega),
    CString.take_of_length_le (Nat.le_refl _)]

/-- What is stored is in the array. -/
theorem extent_snprintf_le (hsize : 0 < size) (hfits : offset + size ≤ limit)
    (hextent : d.buffer.extent ≤ limit) : (d.buffer.print offset size s).extent ≤ limit :=
  (TextBuffer.extent_print_le_iff hsize).mpr ⟨hextent, by omega⟩

/-! ## One member -/

section Member

variable (env : BuilderEnv)

/-- The key fits the size. -/
def JsonMember.KeyFits (size : Nat) (m : JsonMember) : Prop :=
  (keyText env m.pKey).length < size ∧ (keyText env m.pKey).length < 2 ^ 31

/-- The member is added: it has a key and a value, and both fit the size. -/
def JsonMember.Added (size : Nat) (m : JsonMember) : Prop :=
  m.KeyFits env size ∧ m.pKey ≠ none ∧ ∃ data ∈ m.pData, ∀ s ∈ data.printed env,
    (keyText env m.pKey).length + s.length < size ∧ s.length < 2 ^ 31

/-- The member leaves the array: it has a key and a value, and the key fits the size but not
both. -/
def JsonMember.Overruns (size : Nat) (m : JsonMember) : Prop :=
  m.KeyFits env size ∧ m.pKey ≠ none ∧ ∃ data ∈ m.pData, ∃ s ∈ data.printed env,
    size ≤ (keyText env m.pKey).length + s.length

/-- The member has a key and a value whose lengths are `int`s. -/
def JsonMember.Printable (m : JsonMember) : Prop :=
  m.pKey ≠ none ∧ (keyText env m.pKey).length < 2 ^ 31 ∧
    ∃ data ∈ m.pData, ∀ s ∈ data.printed env, s.length < 2 ^ 31

/-- What a member is printed as. -/
def memberText (m : JsonMember) : CString :=
  match m.pData.bind fun data => data.printed env with
  | some s => keyText env m.pKey ++ s
  | none => keyText env m.pKey

variable {env} {m : JsonMember}

/-- A key has its quotes and its colon. -/
theorem three_le_length_keyText (env : BuilderEnv) (pKey : Option CString) :
    3 ≤ (keyText env pKey).length := by
  rw [keyText, CString.length_append, CString.length_append]
  have hquote : (cString "\"").length = 1 := by decide
  have hcolon : (cString "\":").length = 2 := by decide
  omega

theorem three_le_length_memberText (env : BuilderEnv) (m : JsonMember) :
    3 ≤ (memberText env m).length := by
  have hkey := three_le_length_keyText env m.pKey
  unfold memberText
  split
  · rw [CString.length_append]
    omega
  · exact hkey

/-- A member that can be printed is added when there is room. -/
theorem added_of_printable (h : m.Printable env) (hsize : (memberText env m).length < size) :
    m.Added env size := by
  obtain ⟨pKey, pData⟩ := m
  obtain ⟨hkey, hint, data, rfl, hvalue⟩ := h
  unfold memberText at hsize
  rw [Option.bind_some] at hsize
  cases hprinted : data.printed env with
  | none =>
    rw [hprinted] at hsize
    exact ⟨⟨hsize, hint⟩, hkey, data, rfl, by simp [hprinted]⟩
  | some s =>
    rw [hprinted] at hsize
    have hboth : (keyText env pKey).length + s.length < size := by
      rwa [← CString.length_append]
    refine ⟨⟨Nat.lt_of_le_of_lt (Nat.le_add_right _ _) hboth, hint⟩, hkey, data, rfl, ?_⟩
    intro s' hs'
    obtain rfl := Option.some.inj (hprinted.symm.trans hs')
    exact ⟨hboth, hvalue s hprinted⟩

theorem run_addMember_added (h : m.Added env size) :
    (addMember env size m).run d = .done .success (d.append (memberText env m)) := by
  obtain ⟨pKey, pData⟩ := m
  obtain ⟨⟨hsize, hint⟩, hkey, data, rfl, hvalue⟩ := h
  obtain ⟨key, rfl⟩ := Option.ne_none_iff_exists'.mp hkey
  have hpositive : 0 < size := Nat.lt_of_le_of_lt (Nat.zero_le _) hsize
  rw [run_eq_done_iff, addMember, ends_bind, ends_strlen, ends_bind,
    ends_of_run_eq (run_snprintfChecked hsize hint), if_neg (by simp)]
  show (convertDataToString env size data).Ends _ _ _
  rw [convertDataToString, if_neg (Nat.ne_of_gt hpositive)]
  cases hprinted : data.printed env with
  | none =>
    refine ⟨?_, ?_⟩
    · rw [checkReturnValueOfSnPrintf, if_neg (by decide),
        if_neg (show ¬ size ≤ Int.toNat 0 from Nat.not_le.mpr hpositive)]
    · rw [memberText, Option.bind_some, hprinted]
  | some s =>
    obtain ⟨hfits, hs⟩ := hvalue s hprinted
    rw [ends_bind, ends_strlen, ends_of_run_eq (run_snprintfChecked (by omega) hs),
      Draft.append_append]
    refine ⟨rfl, ?_⟩
    rw [memberText, Option.bind_some, hprinted]

/-- A member that is not added is stored past the size or ends the call. -/
theorem addMember_overruns (h : m.Overruns env size) : (addMember env size m).Ends d
    (fun _ d' => d.buffer.text.length + size < d'.buffer.extent) (fun _ => False) := by
  obtain ⟨pKey, pData⟩ := m
  obtain ⟨⟨hsize, hint⟩, hkey, data, rfl, s, hprinted, hlong⟩ := h
  obtain ⟨key, rfl⟩ := Option.ne_none_iff_exists'.mp hkey
  have hkey := three_le_length_keyText env (some key)
  have hpositive : 0 < size := by omega
  rw [addMember, ends_bind, ends_strlen, ends_bind,
    ends_of_run_eq (run_snprintfChecked hsize hint), if_neg (by simp)]
  show (convertDataToString env size data).Ends _ _ _
  rw [convertDataToString, if_neg (Nat.ne_of_gt hpositive), Option.mem_def.mp hprinted, ends_bind,
    ends_strlen, ends_snprintfChecked, ← Nat.not_le, TextBuffer.extent_print_le_iff hpositive,
    Draft.text_append, CString.length_append]
  have hlength : (keyText env (JsonMember.mk (some key) (some data)).pKey).length =
      (keyText env (some key)).length := rfl
  omega

theorem addMember_stops (hadded : ¬ m.Added env size) (hoverruns : ¬ m.Overruns env size)
    (hpositive : 0 < size) (hfits : d.buffer.text.length + size ≤ limit)
    (hextent : d.buffer.extent ≤ limit) : (addMember env size m).Ends d
      (fun rc d' => rc ≠ .success ∧ d'.buffer.extent ≤ limit) (fun _ => False) := by
  rw [addMember, ends_bind, ends_strlen, ends_bind]
  by_cases hkey : m.KeyFits env size
  case neg =>
    have hcheck := mt check_printResult_iff.mp hkey
    rw [ends_snprintfChecked, if_pos hcheck]
    exact ⟨hcheck, extent_snprintf_le hpositive hfits hextent⟩
  case pos =>
    have hend : (d.append (keyText env m.pKey)).buffer.extent ≤ limit :=
      Nat.max_le.mpr ⟨hextent, by have := hkey.1; omega⟩
    rw [ends_of_run_eq (run_snprintfChecked hkey.1 hkey.2), if_neg (by simp)]
    obtain ⟨pKey, pData⟩ := m
    cases pKey with
    | none => exact ⟨by decide, hend⟩
    | some key =>
      cases pData with
      | none => exact ⟨by decide, hend⟩
      | some data =>
        show (convertDataToString env size data).Ends _ _ _
        rw [convertDataToString, if_neg (Nat.ne_of_gt hpositive)]
        cases hprinted : data.printed env with
        | none => exact absurd ⟨hkey, by simp, data, rfl, by simp [hprinted]⟩ hadded
        | some s =>
          -- the value fits, but its length is no `int`
          have hshort : (keyText env (some key)).length + s.length < size :=
            Nat.lt_of_not_le fun hlong => hoverruns ⟨hkey, by simp, data, rfl, s, hprinted, hlong⟩
          rw [ends_bind, ends_strlen, ends_snprintfChecked, Ne, check_printResult_iff,
            TextBuffer.extent_print_le_iff hpositive]
          refine ⟨fun h => hadded ⟨hkey, by simp, data, rfl, ?_⟩, hend, ?_⟩
          · intro s' hs'
            obtain rfl := Option.some.inj (hprinted.symm.trans hs')
            exact ⟨hshort, h.2⟩
          · rw [Draft.text_append, CString.length_append]
            show d.buffer.text.length + (keyText env (some key)).length + _ < _
            omega

end Member

/-- Everything but an object is printed. -/
theorem MemberData.isSome_printed_iff {env : BuilderEnv} (data : MemberData) :
    (data.printed env).isSome ↔ data.type ≠ .object := by
  cases data <;> simp [MemberData.printed, MemberData.type]

/-! ## The loop -/

/-- The size that is left when the document is not longer than the size. -/
theorem remSizeOfJsonBuffer_of_le {env : BuilderEnv} {max length : Nat} (hle : length ≤ max)
    (hmax : max < 2 ^ env.sizeBits) : remSizeOfJsonBuffer env max length = max - length := by
  have hbound : (max : Int) < 2 ^ env.sizeBits := by exact_mod_cast hmax
  rw [remSizeOfJsonBuffer, Int.emod_eq_of_lt (by omega) (by omega)]
  omega

/-- The counter, which has eight bits, stays below a count of 128 or more. -/
theorem counter_lt_iff {k : Nat} {count : UInt8} (hk : k ≤ count.toNat) :
    (Int8.ofNat k).toInt < count.toNat ↔ k < count.toNat ∨ 128 ≤ count.toNat := by
  rcases Nat.lt_or_ge k 128 with hsmall | hlarge
  · rw [Int8.toInt_ofNat_of_lt hsmall]
    omega
  · have hcounter := (Int8.ofNat k).toInt_lt
    exact ⟨fun _ => .inr (by omega), fun _ => by omega⟩

section Loop

variable {env : BuilderEnv} {max : Nat} {count : UInt8} {k : Nat}
  {arguments : List (Option JsonMember)} {Q : IoTError → Draft → Prop} {H : Draft → Prop}

/-- A pass of the loop that finds room reads an argument. -/
theorem ends_addMembers_null (hmax : max < 2 ^ env.sizeBits) (hk : k < count.toNat)
    (hroom : d.buffer.text.length + 1 < max) :
    (addMembers env max count (none :: arguments) (Int8.ofNat k) size).Ends d Q H ↔
      Q .nullValueError (d.read 1) := by
  rw [addMembers, if_pos ((counter_lt_iff (Nat.le_of_lt hk)).mpr (.inl hk)), ends_bind, ends_strlen,
    remSizeOfJsonBuffer_of_le (by omega) hmax, if_neg (by omega)]
  exact Iff.rfl

theorem ends_addMembers_some {m : JsonMember} (hmax : max < 2 ^ env.sizeBits)
    (hk : k < count.toNat) (hroom : d.buffer.text.length + 1 < max) :
    (addMembers env max count (some m :: arguments) (Int8.ofNat k) size).Ends d Q H ↔
      (addMember env (max - d.buffer.text.length) m).Ends (d.read 1)
        (fun rc d' => if rc ≠ .success then Q rc d' else
          (addMembers env max count arguments (Int8.ofNat (k + 1))
            (max - d.buffer.text.length)).Ends d' Q H) H := by
  rw [addMembers, if_pos ((counter_lt_iff (Nat.le_of_lt hk)).mpr (.inl hk)), ends_bind, ends_strlen,
    remSizeOfJsonBuffer_of_le (by omega) hmax, if_neg (by omega), Int8.ofNat_add]
  simp only [ends_bind, ends_ite]
  exact Iff.rfl

/-- A pass that finds no room ends the call. -/
theorem ends_addMembers_full (hmax : max < 2 ^ env.sizeBits) (hk : k ≤ count.toNat)
    (hloop : k < count.toNat ∨ 128 ≤ count.toNat) (hle : d.buffer.text.length ≤ max)
    (hfull : max ≤ d.buffer.text.length + 1) :
    (addMembers env max count arguments (Int8.ofNat k) size).Ends d Q H ↔
      Q .shadowJsonError d := by
  rw [addMembers, if_pos ((counter_lt_iff hk).mpr hloop), ends_bind, ends_strlen,
    remSizeOfJsonBuffer_of_le hle hmax, if_pos (by omega)]
  exact Iff.rfl

/-- A pass that finds room but no argument is not defined. -/
theorem ends_addMembers_missing (hmax : max < 2 ^ env.sizeBits) (hk : k ≤ count.toNat)
    (hloop : k < count.toNat ∨ 128 ≤ count.toNat) (hroom : d.buffer.text.length + 1 < max) :
    (addMembers env max count [] (Int8.ofNat k) size).Ends d Q H ↔ H d := by
  rw [addMembers, if_pos ((counter_lt_iff hk).mpr hloop), ends_bind, ends_strlen,
    remSizeOfJsonBuffer_of_le (by omega) hmax, if_neg (by omega)]
  exact Iff.rfl

theorem noNul_closing : 0 ∉ ascii "\x7d," := by decide

/-- The brace that closes a section takes the place of the last character. -/
def closeText (t : CString) : CString := t.take (t.length - 1) ++ cString "\x7d," noNul_closing

/-- The section is closed. -/
def Draft.close (d : Draft) : Draft :=
  { d with buffer :=
      { text := closeText d.buffer.text
        extent := Nat.max d.buffer.extent (d.buffer.text.length + 2) } }

/-- After its last pass the loop closes the section. -/
theorem run_addMembers_close (hcount : count.toNat ≤ 127) (hlength : 0 < d.buffer.text.length)
    (hsize : 2 < size) :
    (addMembers env max count arguments (Int8.ofNat count.toNat) size).run d =
      .done .success d.close := by
  have hlast : ¬ (Int8.ofNat count.toNat).toInt < count.toNat := by
    rw [counter_lt_iff (Nat.le_refl _)]
    omega
  have hclose : (cString "\x7d,").length = 2 := by decide
  rw [run_eq_done_iff, addMembers, if_neg hlast, ends_bind, ends_lastOffset,
    if_neg (Nat.ne_of_gt hlength)]
  refine ⟨check_printResult_iff.mpr ⟨by omega, by omega⟩, ?_⟩
  unfold Draft.close closeText TextBuffer.print
  rw [if_neg (by omega), CString.take_of_length_le (s := cString "\x7d,") (by omega), hclose]
  congr 3
  omega

/-- What members are printed as. -/
def membersText (env : BuilderEnv) (members : List JsonMember) : CString :=
  members.foldr (fun m rest => memberText env m ++ rest) default

/-- Members that fit are added one behind the other. -/
theorem ends_addMembers_added (hmax : max < 2 ^ env.sizeBits) : ∀ (members : List JsonMember)
    (k size : Nat) (printed : CString), k + members.length ≤ count.toNat → 2 < size →
    d.buffer.text.length + printed.length + (membersText env members).length + 2 ≤ max →
    (∀ m ∈ members, m.Printable env) → ∃ size', 2 < size' ∧
      ((addMembers env max count (members.map some ++ arguments) (Int8.ofNat k) size).Ends
        (d.append printed) Q H ↔
      (addMembers env max count arguments (Int8.ofNat (k + members.length)) size').Ends
        ((d.append (printed ++ membersText env members)).read members.length) Q H) := by
  intro members
  induction members generalizing d with
  | nil =>
    intro k size printed _ hsize _ _
    refine ⟨size, hsize, ?_⟩
    rw [membersText, List.foldr_nil, CString.append_default]
    exact Iff.rfl
  | cons m members ih =>
    intro k size printed hk _ hroom hprintable
    have htext : membersText env (m :: members) = memberText env m ++ membersText env members := rfl
    have hkey := three_le_length_memberText env m
    rw [htext, CString.length_append] at hroom
    rw [List.length_cons] at hk
    have hend : (d.append printed).buffer.text.length = d.buffer.text.length + printed.length :=
      CString.length_append _ _
    have hadded : m.Added env (max - (d.append printed).buffer.text.length) :=
      added_of_printable (hprintable m List.mem_cons_self) (by omega)
    obtain ⟨size', hsize', hrest⟩ := ih (d := d.read 1) (k + 1)
      (max - (d.append printed).buffer.text.length) (printed ++ memberText env m) (by omega)
      (by omega) (by rw [CString.length_append, Draft.text_read]; omega)
      (fun m' hm' => hprintable m' (List.mem_cons_of_mem _ hm'))
    refine ⟨size', hsize', ?_⟩
    rw [List.map_cons, List.cons_append, ends_addMembers_some hmax (by omega) (by omega),
      ends_of_run_eq (run_addMember_added hadded), if_neg (by simp), List.length_cons, htext,
      ← CString.append_assoc, Nat.add_comm members.length 1, ← Nat.add_assoc, ← Draft.read_read,
      ← Draft.append_read d printed, Draft.append_append, ← Draft.append_read d]
    exact hrest

end Loop

/-! ## Every member once -/

/-- An argument that is not NULL, and whose key and value are not. -/
def given (m : CString × MemberData) : JsonMember := ⟨some m.1, some m.2⟩

/-- What a section is printed as, before it is closed. -/
def sectionText (env : BuilderEnv) (part : Section) (members : List (CString × MemberData)) :
    CString :=
  part.opening ++ membersText env (members.map given)

/-- The call reads an argument for every member, and returns SUCCESS only if every member has
a value that is printed and the section with all of them is at the end of the document. -/
def AddsEachMember (env : BuilderEnv) (part : Section) (max : Nat) (count : UInt8)
    (members : List (CString × MemberData)) (d : Draft) : Prop :=
  ∃ rc d', (addSection env part max count (members.map fun m => some (given m))).run d =
      .done rc d' ∧
    d'.argumentsRead = d.argumentsRead + count.toNat ∧
    (rc = .success → (∀ m ∈ members, (m.2.printed env).isSome) ∧
      d'.buffer.text = closeText (d.buffer.text ++ sectionText env part members))

/-- The array is large enough for the section, and the length of every key and value that is
printed is an `int`. -/
structure LargeEnough (env : BuilderEnv) (part : Section) (max : Nat)
    (members : List (CString × MemberData)) (d : Draft) : Prop where
  /-- The section fits. -/
  room : d.buffer.text.length + (sectionText env part members).length + 2 ≤ max
  /-- The size is a `size_t`. -/
  size : max < 2 ^ env.sizeBits
  /-- What is printed at once has a length. -/
  printable : ∀ m ∈ members, (given m).Printable env

theorem Section.length_opening_bounds (part : Section) :
    11 ≤ part.opening.length ∧ part.opening.length < 2 ^ 31 := by
  cases part <;> decide

/-- A section that fits is added, unless the counter never reaches the count. -/
theorem ends_addSection {env : BuilderEnv} {part : Section} {max : Nat} {count : UInt8}
    {members : List (CString × MemberData)} {Q : IoTError → Draft → Prop} {H : Draft → Prop}
    (hcount : members.length = count.toNat) (h : LargeEnough env part max members d) :
    (addSection env part max count (members.map fun m => some (given m))).Ends d Q H ↔
      if count.toNat ≤ 127 then
        Q .success ((d.append (sectionText env part members)).read members.length).close
      else H ((d.append (sectionText env part members)).read members.length) := by
  obtain ⟨hopening, hint⟩ := part.length_opening_bounds
  have hroom := h.room
  have hlength : (sectionText env part members).length =
      part.opening.length + (membersText env (members.map given)).length :=
    CString.length_append _ _
  have hmembers : 0 + (members.map given).length ≤ count.toNat := by
    rw [List.length_map]
    omega
  have hprintable : ∀ m ∈ members.map given, m.Printable env := by
    intro m hm
    obtain ⟨m', hm', rfl⟩ := List.mem_map.mp hm
    exact h.printable m' hm'
  obtain ⟨size', hsize', hloop⟩ : ∃ size', 2 < size' ∧
      ((addMembers env max count ((members.map given).map some ++ []) (Int8.ofNat 0) _).Ends
        _ Q H ↔ _) :=
    ends_addMembers_added (d := d) h.size (members.map given) 0 (max - d.buffer.text.length)
      part.opening hmembers (by omega) (by omega) hprintable
  rw [List.append_nil, List.map_map, List.length_map, Nat.zero_add, hcount] at hloop
  change _ ↔ (addMembers env max count [] _ size').Ends
    ((d.append (sectionText env part members)).read count.toNat) Q H at hloop
  rw [addSection, ends_bind, ends_strlen, remSizeOfJsonBuffer_of_le (by omega) h.size,
    if_neg (by omega), ends_bind, ends_of_run_eq (run_snprintfChecked (by omega) hint),
    if_neg (by simp), hcount]
  refine Iff.trans hloop ?_
  have hend : ((d.append (sectionText env part members)).read count.toNat).buffer.text.length =
      d.buffer.text.length + (sectionText env part members).length := CString.length_append _ _
  split
  case isTrue hsmall => exact ends_of_run_eq (run_addMembers_close hsmall (by omega) hsize')
  case isFalse hlarge =>
    exact ends_addMembers_missing h.size (Nat.le_refl _) (.inr (by omega)) (by omega)

/-- Adding members reads each argument and adds each member exactly if there are at most 127
of them and none is an object. -/
theorem addSection_adds_each_member_iff (env : BuilderEnv) (part : Section) (max : Nat)
    (count : UInt8) (members : List (CString × MemberData)) (d : Draft)
    (hcount : members.length = count.toNat) (hlarge : LargeEnough env part max members d) :
    AddsEachMember env part max count members d ↔
      count.toNat ≤ 127 ∧ ∀ m ∈ members, m.2.type ≠ .object := by
  have hprinted : (∀ m ∈ members, (m.2.printed env).isSome) ↔
      ∀ m ∈ members, m.2.type ≠ .object :=
    forall₂_congr fun m _ => m.2.isSome_printed_iff
  constructor
  · rintro ⟨rc, d', hrun, -, hsuccess⟩
    have hends := run_eq_done_iff.mp hrun
    rw [ends_addSection hcount hlarge] at hends
    split at hends
    case isTrue hsmall => exact ⟨hsmall, hprinted.mp (hsuccess hends.1.symm).1⟩
    case isFalse => exact hends.elim
  · rintro ⟨hsmall, hobject⟩
    refine ⟨.success, ((d.append (sectionText env part members)).read members.length).close,
      run_eq_done_iff.mpr ((ends_addSection hcount hlarge).mpr ?_), ?_, ?_⟩
    · rw [if_pos hsmall]
      exact ⟨rfl, rfl⟩
    · show d.argumentsRead + members.length = _
      rw [hcount]
    · exact fun _ => ⟨hprinted.mpr hobject, rfl⟩

/-! ### Runs -/

/-- Surroundings with a `size_t` of 64 bits; the runs here print no number with a fraction. -/
def deviceBuilderEnv : BuilderEnv where
  sizeBits := 64
  printNull := cString "(null)"
  printFloat _ := cString "0.000000"
  printDouble _ := cString "0.000000"
  mqttClientID := cString "device"

theorem noNul_ending : 0 ∉ ascii "\"\x7d" := by decide

/-- A document that was only begun. -/
def begunDraft : Draft := ⟨⟨cString "\x7b\"state\":\x7b" stateOpening.noNul, 11⟩, 0, 0⟩

theorem printable_int8 (key : CString) (hkey : key.length < 100) (value : Int8)
    (hvalue : (CString.ofInt value.toInt).length < 100) :
    (given (key, .int8 value)).Printable deviceBuilderEnv := by
  refine ⟨by simp [given], ?_, .int8 value, rfl, ?_⟩
  · have hquote : (cString "\"").length = 1 := by decide
    have hcolon : (cString "\":").length = 2 := by decide
    simp only [given, keyText, Option.getD_some, CString.length_append]
    omega
  · intro s hs
    obtain rfl := Option.some.inj hs
    have hcomma : (cString ",").length = 1 := by decide
    rw [CString.length_append]
    omega

/-- Two members, as in the tests of the builder. -/
theorem addSection_adds_two_members :
    AddsEachMember deviceBuilderEnv .reported 200 2
      [(cString "first", .int8 1), (cString "second", .int8 (-2))] begunDraft := by
  refine (addSection_adds_each_member_iff _ _ _ _ _ _ (by decide) ⟨by decide, by decide, ?_⟩).mpr
    ⟨by decide, by decide⟩
  intro m hm
  simp only [List.mem_cons, List.not_mem_nil, or_false] at hm
  rcases hm with rfl | rfl
  · exact printable_int8 _ (by decide) _ (by decide)
  · exact printable_int8 _ (by decide) _ (by decide)

/-- 128 members. -/
def manyMembers : List (CString × MemberData) := List.replicate 128 (cString "key", .int8 0)

theorem manyMembers_largeEnough :
    LargeEnough deviceBuilderEnv .desired 2000 manyMembers begunDraft := by
  refine ⟨by decide +kernel, by decide, fun m hm => ?_⟩
  rw [List.eq_of_mem_replicate hm]
  exact printable_int8 _ (by decide) _ (by decide)

/-- With 128 members that fit the counter never reaches the count. -/
theorem not_every_count_adds_each_member :
    ¬ ∀ (env : BuilderEnv) (part : Section) (max : Nat) (count : UInt8)
      (members : List (CString × MemberData)) (d : Draft), members.length = count.toNat →
      LargeEnough env part max members d → AddsEachMember env part max count members d := by
  intro h
  have hcount : manyMembers.length = (128 : UInt8).toNat := List.length_replicate
  obtain ⟨rc, d', hrun, -⟩ := h _ _ _ 128 _ _ hcount manyMembers_largeEnough
  rw [run_eq_done_iff, ends_addSection hcount manyMembers_largeEnough, if_neg (by decide)] at hrun
  exact hrun

end AwsIot.Shadow
