import StraceGo.ByteLayout
import StraceGo.MachineIntegers
import StraceGo.StringRendering

/-!
# Netlink messages

The formatter of a captured netlink buffer, which walks a chain of messages by
the lengths in their headers and formats the message inside an error again. The
walk may fail to end, so it runs on fuel, and an outcome tells apart the end of
the fuel from a panic. It ends on every buffer but those with a message whose
length cannot be rounded up in 32 bits.
-/

namespace StraceGo.NetlinkMessages

open ByteLayout GoText MachineIntegers StringRendering

/-- Ways in which a run fails to return. -/
inductive Stop where
  /-- A read outside the bounds. -/
  | panic
  /-- The run is longer than its fuel. -/
  | fuel
  deriving DecidableEq

/-- Outcome of a run. -/
abbrev Run (α : Type) : Type := Except Stop α

/-- A checked read as a run. -/
def checked {α : Type} : Checked α → Run α
  | none => .error .panic
  | some a => .ok a

/-- A message as it is listed. -/
structure NetlinkItem where
  /-- Length that is reported. -/
  nlmsgLen : ℕ
  /-- Type. -/
  nlmsgType : UInt16
  /-- Flags. -/
  nlmsgFlags : UInt16
  /-- Sequence number. -/
  nlmsgSeq : UInt32
  /-- Port of the sender. -/
  nlmsgPid : UInt32
  /-- Bytes behind the header. -/
  payload : List UInt8
  deriving DecidableEq

/-- A listed message with its text. -/
structure ShownMessage where
  /-- The message. -/
  item : NetlinkItem
  /-- Text of its header and payload. -/
  text : String

/-- A message and the bytes behind it, if the walk goes on. -/
structure MessageStep where
  /-- The message. -/
  item : NetlinkItem
  /-- Rest of the buffer. -/
  next : Option (List UInt8)
  deriving DecidableEq

/-- Names of numbers in the tables of the session. -/
abbrev FlagDecoder : Type := UInt64 → String → String

section Formatter

/-- Text of some bytes. -/
def buffer (data : List UInt8) : String := bufferEscape data 0 data.length 0

/-- Message with the fields of the header at the start of some bytes. -/
def readItem (data : List UInt8) (length : ℕ) (payload : List UInt8) : Checked NetlinkItem := do
  let type ← uint16At data 4
  let flags ← uint16At data 6
  let seq ← uint32At data 8
  let pid ← uint32At data 12
  return ⟨length,type,flags,seq,pid,payload⟩

/-- Message at the start of a buffer; a length below that of a header ends the walk, and a length
beyond the buffer is cut at its end. -/
def readMessage (curr : List UInt8) : Checked MessageStep :=
  (uint32At curr 0).bind fun nlmsgLen =>
    if nlmsgLen < 16 then (readItem curr nlmsgLen.toNat []).map fun item => ⟨item,none⟩
    else
      let length := if curr.length < nlmsgLen.toNat then curr.length else nlmsgLen.toNat
      (slice curr 0 length).bind fun messageData =>
        (slice messageData 16 messageData.length).bind fun payload =>
          (readItem messageData length payload).bind fun item =>
            if curr.length ≤ alignFour32 length then some ⟨item,none⟩
            else (slice curr (alignFour32 length) curr.length).map fun next => ⟨item,some next⟩

/-- Text of a header. -/
def formatHeader (catalog : FlagDecoder) (item : NetlinkItem) : String :=
  "\x7bnlmsg_len=" ++ toString item.nlmsgLen ++ ", nlmsg_type=" ++
    catalog item.nlmsgType.toUInt64 "netlink_types" ++ ", nlmsg_flags=" ++
    catalog item.nlmsgFlags.toUInt64 "netlink_flags" ++ ", nlmsg_seq=" ++
    toString item.nlmsgSeq.toNat ++ ", nlmsg_pid=" ++ toString item.nlmsgPid.toNat ++ "\x7d"

/-- Text of an error and of the message that caused it. -/
def formatErrorPayload (catalog : FlagDecoder) (format : List UInt8 → Run String)
    (payload : List UInt8) : Run String :=
  if payload.length < 4 then .ok ""
  else do
    let errVal := (← checked (uint32At payload 0)).toInt32
    let errName := if errVal=0 then "0"
      else "-" ++ catalog (-errVal).toInt64.toUInt64 "errno"
    let rest ← checked (slice payload 4 payload.length)
    if 20 ≤ payload.length then
      return ", \x7berror=" ++ errName ++ ", msg=" ++ (← format rest) ++ "\x7d"
    if 4 < payload.length then
      return ", \x7berror=" ++ errName ++ ", msg=" ++ buffer rest ++ "\x7d"
    return ", \x7berror=" ++ errName ++ "\x7d"

/-- Text of the payload that ends a dump. -/
def formatDonePayload (payload : List UInt8) : Run String := do
  if payload.length=4 then
    return ", " ++ toString (← checked (uint32At payload 0)).toInt32.toInt
  return ", " ++ buffer payload

/-- Text of a payload; nested messages are formatted by the given function. -/
def formatPayload (catalog : FlagDecoder) (format : List UInt8 → Run String) (item : NetlinkItem) :
    Run String :=
  if item.payload=[] then .ok ""
  else
    match item.nlmsgType.toNat with
    | 2 => formatErrorPayload catalog format item.payload
    | 3 => formatDonePayload item.payload
    | _ => .ok (", " ++ buffer item.payload)

/-- Text of a list of messages. -/
def joinMessages (shown : List ShownMessage) : String :=
  match shown with
  | [message] => message.text
  | _ => bracketed (shown.map (·.text))

mutual

/-- Text of a buffer. -/
def format (catalog : FlagDecoder) : ℕ → List UInt8 → Run String
  | 0,_ => .error .fuel
  | fuel+1,data =>
    if data.length < 16 then .ok (buffer data)
    else (formatMessages catalog fuel data).map joinMessages

/-- Messages of a buffer, one behind the other. -/
def formatMessages (catalog : FlagDecoder) : ℕ → List UInt8 → Run (List ShownMessage)
  | 0,_ => .error .fuel
  | fuel+1,curr =>
    if curr.length < 16 then .ok []
    else
      match readMessage curr with
      | none => .error .panic
      | some step =>
        match formatPayload catalog (format catalog fuel) step.item with
        | .error stop => .error stop
        | .ok payload =>
          let shown := ⟨step.item,formatHeader catalog step.item ++ payload⟩
          match step.next with
          | none => .ok [shown]
          | some next => (formatMessages catalog fuel next).map (shown::·)

end

end Formatter

section Chain

/-- Length of the message at the start of a buffer, cut at the end of the buffer. -/
def messageLen (curr : List UInt8) : ℕ := min (field curr 0 4) curr.length

/-- Length rounded up to the alignment, in exact numbers. -/
def alignedLen (n : ℕ) : ℕ := (n+3)/4*4

/-- Message at the start of a buffer. -/
def itemOf (curr : List UInt8) : NetlinkItem where
  nlmsgLen := messageLen curr
  nlmsgType := UInt16.ofNat (field curr 4 2)
  nlmsgFlags := UInt16.ofNat (field curr 6 2)
  nlmsgSeq := UInt32.ofNat (field curr 8 4)
  nlmsgPid := UInt32.ofNat (field curr 12 4)
  payload := (curr.take (messageLen curr)).drop 16

/-- Rests of a buffer at which its messages start. -/
def messageStarts (curr : List UInt8) : List (List UInt8) :=
  if curr.length < 16 then []
  else if field curr 0 4 < 16 then [curr]
  else curr::messageStarts (curr.drop (alignedLen (messageLen curr)))
termination_by curr.length
decreasing_by
  unfold alignedLen messageLen
  rw [List.length_drop]
  omega

/-- A message whose length cannot be rounded up in 32 bits. -/
def Oversized (curr : List UInt8) : Prop := 2^32-4 < messageLen curr

theorem messageLen_lt (curr : List UInt8) : messageLen curr < 2^32 := by
  have hlt : field curr 0 4 < 2^32 := field_lt curr 0 4
  unfold messageLen
  omega

theorem messageStarts_short {curr : List UInt8} (h : curr.length < 16) : messageStarts curr=[] := by
  rw [messageStarts,if_pos h]

theorem messageStarts_last {curr : List UInt8} (h : 16 ≤ curr.length) (hlen : field curr 0 4 < 16) :
    messageStarts curr=[curr] := by
  rw [messageStarts,if_neg (Nat.not_lt.mpr h),if_pos hlen]

theorem messageStarts_cons {curr : List UInt8} (h : 16 ≤ curr.length)
    (hlen : 16 ≤ field curr 0 4) :
    messageStarts curr=curr::messageStarts (curr.drop (alignedLen (messageLen curr))) := by
  rw [messageStarts,if_neg (Nat.not_lt.mpr h),if_neg (Nat.not_lt.mpr hlen)]

theorem length_payload (curr : List UInt8) :
    (itemOf curr).payload.length=messageLen curr-16 := by
  have hbound : messageLen curr ≤ curr.length := Nat.min_le_right _ _
  unfold itemOf
  rw [List.length_drop,List.length_take,Nat.min_eq_left hbound]

/-- No message starts before the buffer. -/
theorem length_le_of_mem {curr start : List UInt8} (h : start∈messageStarts curr) :
    start.length ≤ curr.length := by
  induction hmeasure : curr.length using Nat.strongRecOn generalizing curr with
  | ind n ih =>
    rw [messageStarts] at h
    split_ifs at h with hshort hlen
    · exact absurd h List.not_mem_nil
    · rw [List.mem_singleton.mp h]
      omega
    · rcases List.mem_cons.mp h with hself | hrest
      · rw [hself]
        omega
      · have hdrop : (curr.drop (alignedLen (messageLen curr))).length < n := by
          unfold alignedLen messageLen
          rw [List.length_drop]
          omega
        have hbound := ih _ hdrop hrest rfl
        omega

/-- The fields of a message are read inside its bytes. -/
theorem readItem_eq {data : List UInt8} (h : 16 ≤ data.length) (length : ℕ)
    (payload : List UInt8) :
    readItem data length payload=some ⟨length,UInt16.ofNat (field data 4 2),
      UInt16.ofNat (field data 6 2),UInt32.ofNat (field data 8 4),UInt32.ofNat (field data 12 4),
      payload⟩ := by
  unfold readItem
  rw [uint16At_eq (by omega),uint16At_eq (by omega),uint32At_eq (by omega),uint32At_eq (by omega)]
  rfl

/-- A field inside the front of a buffer. -/
theorem field_take (curr : List UInt8) {n offset width : ℕ} (h : offset+width ≤ n) :
    field (curr.take n) offset width=field curr offset width := by
  have hpart : field ((curr.drop 0).take n) offset width=field curr (0+offset) width :=
    field_part curr h
  rw [List.drop_zero,Nat.zero_add] at hpart
  exact hpart

/-- One turn of the walk at a whole header. -/
theorem readMessage_eq {curr : List UInt8} (h : 16 ≤ curr.length) :
    readMessage curr=some ⟨itemOf curr,
      if field curr 0 4 < 16 ∨ curr.length ≤ alignFour32 (messageLen curr) then none
      else some (curr.drop (alignFour32 (messageLen curr)))⟩ := by
  have hnat := toNat_field32 curr 0
  have hshort : UInt32.ofNat (field curr 0 4) < 16 ↔ field curr 0 4 < 16 := by
    rw [UInt32.lt_iff_toNat_lt,hnat]
    exact Iff.rfl
  unfold readMessage
  rw [uint32At_eq (by omega),Option.bind_some,hnat]
  by_cases hlen : field curr 0 4 < 16
  · rw [if_pos (hshort.mpr hlen),if_pos (Or.inl hlen),readItem_eq h,Option.map_some]
    have hmin : messageLen curr=field curr 0 4 := by
      unfold messageLen
      omega
    have hpayload : (itemOf curr).payload=[] := by
      unfold itemOf
      rw [hmin]
      apply List.drop_eq_nil_of_le
      rw [List.length_take]
      omega
    unfold itemOf at hpayload ⊢
    dsimp only at hpayload
    rw [hpayload,hmin]
  · have hcut : (if curr.length < field curr 0 4 then curr.length else field curr 0 4)=
        messageLen curr := by
      unfold messageLen
      split_ifs <;> omega
    have hbounds : 16 ≤ messageLen curr ∧ messageLen curr ≤ curr.length := by
      unfold messageLen
      omega
    have hlength : (curr.take (messageLen curr)).length=messageLen curr := by
      rw [List.length_take]
      omega
    have hmessage : slice curr 0 (messageLen curr)=some (curr.take (messageLen curr)) := by
      rw [slice_eq (by omega) hbounds.2,List.drop_zero,Nat.sub_zero]
    have hpayload : slice (curr.take (messageLen curr)) 16 (curr.take (messageLen curr)).length=
        some ((curr.take (messageLen curr)).drop 16) := slice_end (by omega)
    have hitem : readItem (curr.take (messageLen curr)) (messageLen curr)
        ((curr.take (messageLen curr)).drop 16)=some (itemOf curr) := by
      rw [readItem_eq (by omega),field_take curr (by omega),field_take curr (by omega),
        field_take curr (by omega),field_take curr (by omega)]
      rfl
    rw [if_neg (mt hshort.mp hlen)]
    dsimp only
    rw [hcut,hmessage,Option.bind_some,hpayload,Option.bind_some,hitem,Option.bind_some]
    by_cases hend : curr.length ≤ alignFour32 (messageLen curr)
    · rw [if_pos hend,if_pos (Or.inr hend)]
    · have hgoes : ¬(field curr 0 4 < 16 ∨ curr.length ≤ alignFour32 (messageLen curr)) := by
        omega
      rw [if_neg hend,if_neg hgoes,slice_end (by omega)]
      rfl

end Chain

section Runs

variable {catalog : FlagDecoder}

/-- A payload can always be formatted if the shorter messages inside it can. -/
theorem formatPayload_runs {nested : List UInt8 → Run String} {item : NetlinkItem}
    (h : ∀ rest, rest.length+4 ≤ item.payload.length → ∃ text, nested rest=.ok text) :
    ∃ text, formatPayload catalog nested item=.ok text := by
  unfold formatPayload
  split_ifs with hempty
  · exact ⟨_,rfl⟩
  · split
    · unfold formatErrorPayload
      split_ifs with hshort hnested hmore
      · exact ⟨_,rfl⟩
      · rw [uint32At_eq (by omega),slice_end (by omega)]
        rcases h (item.payload.drop 4) (by rw [List.length_drop]; omega) with ⟨text,htext⟩
        dsimp only [checked,bind,Except.bind]
        rw [htext]
        exact ⟨_,rfl⟩
      · rw [uint32At_eq (by omega),slice_end (by omega)]
        exact ⟨_,rfl⟩
      · rw [uint32At_eq (by omega),slice_end (by omega)]
        exact ⟨_,rfl⟩
    · unfold formatDonePayload
      split_ifs with hfour
      · rw [uint32At_eq (by omega)]
        exact ⟨_,rfl⟩
      · exact ⟨_,rfl⟩
    · exact ⟨_,rfl⟩

/-- A payload does not panic if the messages inside it do not. -/
theorem formatPayload_sound {nested : List UInt8 → Run String} (item : NetlinkItem)
    (h : ∀ rest, nested rest≠.error .panic) :
    formatPayload catalog nested item≠.error .panic := by
  unfold formatPayload
  split_ifs with hempty
  · exact fun hne => nomatch hne
  · split
    · unfold formatErrorPayload
      split_ifs with hshort hnested hmore
      · exact fun hne => nomatch hne
      · rw [uint32At_eq (by omega),slice_end (by omega)]
        dsimp only [checked,bind,Except.bind]
        cases htext : nested (item.payload.drop 4) with
        | error stop =>
          intro hstop
          exact h (item.payload.drop 4) (htext.trans hstop)
        | ok text => exact fun hne => nomatch hne
      · rw [uint32At_eq (by omega),slice_end (by omega)]
        exact fun hne => nomatch hne
      · rw [uint32At_eq (by omega),slice_end (by omega)]
        exact fun hne => nomatch hne
    · unfold formatDonePayload
      split_ifs with hfour
      · rw [uint32At_eq (by omega)]
        exact fun hne => nomatch hne
      · exact fun hne => nomatch hne
    · exact fun hne => nomatch hne

/-- Message at the start of a buffer with the text of its payload. -/
def shownOf (catalog : FlagDecoder) (curr : List UInt8) (payload : String) : ShownMessage :=
  ⟨itemOf curr,formatHeader catalog (itemOf curr) ++ payload⟩

/-- A payload that is not formatted stops the walk. -/
theorem formatMessages_error {fuel : ℕ} {curr : List UInt8} {stop : Stop} (h : 16 ≤ curr.length)
    (hpayload : formatPayload catalog (format catalog fuel) (itemOf curr)=.error stop) :
    formatMessages catalog (fuel+1) curr=.error stop := by
  rw [formatMessages,if_neg (Nat.not_lt.mpr h),readMessage_eq h]
  dsimp only
  rw [hpayload]

/-- The walk ends behind a malformed message and at the end of the buffer. -/
theorem formatMessages_last {fuel : ℕ} {curr : List UInt8} {payload : String}
    (h : 16 ≤ curr.length)
    (hpayload : formatPayload catalog (format catalog fuel) (itemOf curr)=.ok payload)
    (hend : field curr 0 4 < 16 ∨ curr.length ≤ alignFour32 (messageLen curr)) :
    formatMessages catalog (fuel+1) curr=.ok [shownOf catalog curr payload] := by
  rw [formatMessages,if_neg (Nat.not_lt.mpr h),readMessage_eq h,if_pos hend]
  dsimp only
  rw [hpayload]
  rfl

/-- Otherwise it goes on behind the rounded length. -/
theorem formatMessages_next {fuel : ℕ} {curr : List UInt8} {payload : String}
    (h : 16 ≤ curr.length)
    (hpayload : formatPayload catalog (format catalog fuel) (itemOf curr)=.ok payload)
    (hend : ¬(field curr 0 4 < 16 ∨ curr.length ≤ alignFour32 (messageLen curr))) :
    formatMessages catalog (fuel+1) curr=
      (formatMessages catalog fuel (curr.drop (alignFour32 (messageLen curr)))).map
        (shownOf catalog curr payload::·) := by
  rw [formatMessages,if_neg (Nat.not_lt.mpr h),readMessage_eq h,if_neg hend]
  dsimp only
  rw [hpayload]
  rfl

/-- No run reads outside its bytes. -/
theorem runs_sound (catalog : FlagDecoder) (fuel : ℕ) :
    (∀ data, format catalog fuel data≠.error .panic) ∧
      ∀ curr, formatMessages catalog fuel curr≠.error .panic := by
  induction fuel with
  | zero =>
    constructor
    · intro data hstop
      rw [format] at hstop
      exact nomatch hstop
    · intro curr hstop
      rw [formatMessages] at hstop
      exact nomatch hstop
  | succ fuel ih =>
    constructor
    · intro data hstop
      rw [format] at hstop
      split_ifs at hstop with hshort
      cases hrun : formatMessages catalog fuel data with
      | error stop =>
        rw [hrun] at hstop
        exact ih.2 data (hrun.trans (congrArg Except.error (Except.error.inj hstop)))
      | ok shown =>
        rw [hrun] at hstop
        exact nomatch hstop
    · intro curr hstop
      by_cases hshort : curr.length < 16
      · rw [formatMessages,if_pos hshort] at hstop
        exact nomatch hstop
      · have hlong := Nat.le_of_not_lt hshort
        cases hpayload : formatPayload catalog (format catalog fuel) (itemOf curr) with
        | error stop =>
          rw [formatMessages_error hlong hpayload] at hstop
          exact formatPayload_sound (itemOf curr) ih.1
            (hpayload.trans (congrArg Except.error (Except.error.inj hstop)))
        | ok payload =>
          by_cases hend : field curr 0 4 < 16 ∨ curr.length ≤ alignFour32 (messageLen curr)
          · rw [formatMessages_last hlong hpayload hend] at hstop
            exact nomatch hstop
          · rw [formatMessages_next hlong hpayload hend] at hstop
            cases hrun : formatMessages catalog fuel
                (curr.drop (alignFour32 (messageLen curr))) with
            | error stop =>
              rw [hrun] at hstop
              exact ih.2 _ (hrun.trans (congrArg Except.error (Except.error.inj hstop)))
            | ok shown =>
              rw [hrun] at hstop
              exact nomatch hstop

/-- A listed message has the text of its header and of its payload. -/
def Rendered (catalog : FlagDecoder) (message : ShownMessage) : Prop :=
  ∃ fuel payload, formatPayload catalog (format catalog fuel) message.item=.ok payload ∧
    message.text=formatHeader catalog message.item ++ payload

/-- The walk lists the messages of a buffer. -/
def Walks (catalog : FlagDecoder) (fuel : ℕ) (curr : List UInt8) : Prop :=
  ∃ shown, formatMessages catalog fuel curr=.ok shown ∧
    shown.map (·.item)=(messageStarts curr).map itemOf ∧ ∀ message∈shown, Rendered catalog message

theorem walks_of_short {fuel : ℕ} {curr : List UInt8} (h : curr.length < 16) :
    Walks catalog (fuel+1) curr := by
  refine ⟨[],?_,?_,fun message hmem => absurd hmem List.not_mem_nil⟩
  · rw [formatMessages,if_pos h]
  · rw [messageStarts_short h]
    rfl

/-- One message more in front of a walk. -/
theorem walks_cons {fuel : ℕ} {curr : List UInt8} {payload : String} (h : 16 ≤ curr.length)
    (hsize : ¬Oversized curr)
    (hpayload : formatPayload catalog (format catalog fuel) (itemOf curr)=.ok payload)
    (hrest : 16 ≤ field curr 0 4 →
      Walks catalog fuel (curr.drop (alignedLen (messageLen curr)))) :
    Walks catalog (fuel+1) curr := by
  have halign : alignFour32 (messageLen curr)=alignedLen (messageLen curr) := by
    unfold Oversized at hsize
    exact alignFour32_eq (by omega)
  have hrendered : Rendered catalog (shownOf catalog curr payload) := ⟨fuel,payload,hpayload,rfl⟩
  have hlast : messageStarts curr=[curr] →
      field curr 0 4 < 16 ∨ curr.length ≤ alignFour32 (messageLen curr) →
      Walks catalog (fuel+1) curr := by
    intro hstarts hend
    refine ⟨_,formatMessages_last h hpayload hend,?_,fun message hmem => ?_⟩
    · rw [hstarts]
      rfl
    · rw [List.mem_singleton.mp hmem]
      exact hrendered
  by_cases hlen : field curr 0 4 < 16
  · exact hlast (messageStarts_last h hlen) (Or.inl hlen)
  · have hstarts := messageStarts_cons h (Nat.le_of_not_lt hlen)
    by_cases hend : curr.length ≤ alignedLen (messageLen curr)
    · have hnil : messageStarts (curr.drop (alignedLen (messageLen curr)))=[] := by
        apply messageStarts_short
        rw [List.length_drop]
        omega
      rw [hnil] at hstarts
      exact hlast hstarts (Or.inr (halign.symm ▸ hend))
    · rcases hrest (Nat.le_of_not_lt hlen) with ⟨shown,hshown,hitems,hall⟩
      have hnext := formatMessages_next h hpayload (by omega)
      rw [halign,hshown] at hnext
      refine ⟨_,hnext,?_,fun message hmem => ?_⟩
      · rw [hstarts,List.map_cons,List.map_cons,hitems]
        rfl
      · rcases List.mem_cons.mp hmem with hself | hmem
        · rw [hself]
          exact hrendered
        · exact hall message hmem

/-- With enough fuel the walk over a buffer without oversized messages ends, and so does the
formatter on the buffers nested in it. -/
theorem walks_of_fuel (catalog : FlagDecoder) (fuel : ℕ) :
    (∀ data, 2*data.length+2 ≤ fuel → (∀ start∈messageStarts data, ¬Oversized start) →
      ∃ text, format catalog fuel data=.ok text) ∧
    ∀ curr, 2*curr.length+1 ≤ fuel → (∀ start∈messageStarts curr, ¬Oversized start) →
      Walks catalog fuel curr := by
  induction fuel with
  | zero =>
    constructor
    · intro data hfuel
      omega
    · intro curr hfuel
      omega
  | succ fuel ih =>
    constructor
    · intro data hfuel hsize
      by_cases hshort : data.length < 16
      · exact ⟨_,by rw [format,if_pos hshort]⟩
      · rcases ih.2 data (by omega) hsize with ⟨shown,hshown,-⟩
        refine ⟨joinMessages shown,?_⟩
        rw [format,if_neg hshort,hshown]
        rfl
    · intro curr hfuel hsize
      by_cases hshort : curr.length < 16
      · exact walks_of_short hshort
      · have hlong := Nat.le_of_not_lt hshort
        have hself : curr∈messageStarts curr := by
          by_cases hlen : field curr 0 4 < 16
          · rw [messageStarts_last hlong hlen]
            exact List.mem_singleton_self curr
          · rw [messageStarts_cons hlong (Nat.le_of_not_lt hlen)]
            exact List.mem_cons_self
        have hpayload : ∃ text,
            formatPayload catalog (format catalog fuel) (itemOf curr)=.ok text := by
          have hlength := length_payload curr
          have hlimit := messageLen_lt curr
          have hbound : messageLen curr ≤ curr.length := Nat.min_le_right _ _
          refine formatPayload_runs fun rest hrest => ih.1 rest (by omega) fun start hstart => ?_
          have hinside := length_le_of_mem hstart
          have hcut : messageLen start ≤ start.length := Nat.min_le_right _ _
          unfold Oversized
          omega
        rcases hpayload with ⟨payload,hpayload⟩
        refine walks_cons hlong (hsize curr hself) hpayload fun hlen => ih.2 _ ?_ ?_
        · unfold alignedLen messageLen
          rw [List.length_drop]
          omega
        · intro start hstart
          apply hsize
          rw [messageStarts_cons hlong hlen]
          exact List.mem_cons_of_mem _ hstart

/-- An oversized message is followed by itself, so no fuel is enough. -/
theorem diverges_of_oversized (fuel : ℕ) {curr : List UInt8}
    (h : ∃ start∈messageStarts curr, Oversized start) :
    formatMessages catalog fuel curr=.error .fuel := by
  induction fuel generalizing curr with
  | zero => rw [formatMessages]
  | succ fuel ih =>
    have hlong : 16 ≤ curr.length := by
      by_contra hshort
      rcases h with ⟨start,hstart,-⟩
      rw [messageStarts_short (Nat.lt_of_not_le hshort)] at hstart
      exact List.not_mem_nil hstart
    cases hpayload : formatPayload catalog (format catalog fuel) (itemOf curr) with
    | error stop =>
      rw [formatMessages_error hlong hpayload]
      cases stop with
      | fuel => rfl
      | panic => exact absurd hpayload (formatPayload_sound (itemOf curr)
          (runs_sound catalog fuel).1)
    | ok payload =>
      by_cases hsize : Oversized curr
      · have hzero : alignFour32 (messageLen curr)=0 := by
          unfold Oversized at hsize
          exact alignFour32_of_upper (by omega) (messageLen_lt curr)
        have hlen : messageLen curr ≤ field curr 0 4 := Nat.min_le_left _ _
        have hgoes : ¬(field curr 0 4 < 16 ∨ curr.length ≤ alignFour32 (messageLen curr)) := by
          unfold Oversized at hsize
          omega
        rw [formatMessages_next hlong hpayload hgoes,hzero,List.drop_zero,ih h]
        rfl
      · have halign : alignFour32 (messageLen curr)=alignedLen (messageLen curr) := by
          unfold Oversized at hsize
          exact alignFour32_eq (by omega)
        rcases h with ⟨start,hstart,hover⟩
        by_cases hlen : field curr 0 4 < 16
        · rw [messageStarts_last hlong hlen,List.mem_singleton] at hstart
          rw [hstart] at hover
          exact absurd hover hsize
        · rw [messageStarts_cons hlong (Nat.le_of_not_lt hlen)] at hstart
          rcases List.mem_cons.mp hstart with hself | hrest
          · rw [hself] at hover
            exact absurd hover hsize
          · have hgoes : ¬(field curr 0 4 < 16 ∨
                curr.length ≤ alignFour32 (messageLen curr)) := by
              rw [halign]
              intro hend
              rw [messageStarts_short (by rw [List.length_drop]; omega)] at hrest
              exact List.not_mem_nil hrest
            rw [formatMessages_next hlong hpayload hgoes,halign,ih ⟨start,hrest,hover⟩]
            rfl

end Runs

section Encoding

/-- A message to send. -/
structure NetlinkMessage where
  /-- Type. -/
  nlmsgType : UInt16
  /-- Flags. -/
  nlmsgFlags : UInt16
  /-- Sequence number. -/
  nlmsgSeq : UInt32
  /-- Port of the sender. -/
  nlmsgPid : UInt32
  /-- Bytes behind the header. -/
  payload : List UInt8
  /-- Bytes up to the next message. -/
  padding : List UInt8
  /-- The length of the message is a number of 32 bits. -/
  fits : 16+payload.length < 2^32
  /-- The next message is aligned, by less than four bytes of padding. -/
  aligned : 16+payload.length+padding.length=alignedLen (16+payload.length)

/-- Fields of a message's header. -/
def NetlinkMessage.header (message : NetlinkMessage) : List (List UInt8) :=
  [bytes 4 (16+message.payload.length),bytes 2 message.nlmsgType.toNat,
    bytes 2 message.nlmsgFlags.toNat,bytes 4 message.nlmsgSeq.toNat,bytes 4 message.nlmsgPid.toNat]

/-- Bytes of a message. -/
def NetlinkMessage.encode (message : NetlinkMessage) : List UInt8 :=
  message.header.flatten ++ (message.payload ++ message.padding)

/-- Bytes of a list of messages. -/
def encodeAll (messages : List NetlinkMessage) : List UInt8 :=
  (messages.map NetlinkMessage.encode).flatten

/-- A message of which some bytes are there. -/
def NetlinkMessage.cutItem (message : NetlinkMessage) (available : ℕ) : NetlinkItem where
  nlmsgLen := available
  nlmsgType := message.nlmsgType
  nlmsgFlags := message.nlmsgFlags
  nlmsgSeq := message.nlmsgSeq
  nlmsgPid := message.nlmsgPid
  payload := message.payload.take (available-16)

/-- Messages in the first bytes of an encoded list: the whole ones, and the one that is cut if
its header is there. -/
def messagesIn : List NetlinkMessage → ℕ → List NetlinkItem
  | [],_ => []
  | message::rest,available =>
    if available < 16 then []
    else if available < 16+message.payload.length then [message.cutItem available]
    else message.cutItem (16+message.payload.length)::
      messagesIn rest (available-alignedLen (16+message.payload.length))

variable (message : NetlinkMessage) {behind : List UInt8} {cut : ℕ}

theorem length_encode :
    message.encode.length=alignedLen (16+message.payload.length) := by
  have hheader : message.header.flatten.length=16 := rfl
  have haligned := message.aligned
  unfold NetlinkMessage.encode
  rw [List.length_append,List.length_append,hheader]
  omega

/-- A field of the header is read back, also from a cut behind the header. -/
theorem field_cut (hcut : 16 ≤ cut) (index : ℕ) {offset width n : ℕ}
    (hpiece : message.header[index]?=some (bytes width n))
    (hoffset : offsetOf message.header index=offset) (hinside : offset+width ≤ 16)
    (hn : n < 256^width) :
    field ((message.encode ++ behind).take cut) offset width=n := by
  rw [field_take _ (by omega)]
  unfold NetlinkMessage.encode
  rw [List.append_assoc]
  exact field_piece message.header index hpiece hoffset hn _

theorem field_cut_length (hcut : 16 ≤ cut) :
    field ((message.encode ++ behind).take cut) 0 4=16+message.payload.length :=
  field_cut message hcut 0 rfl rfl (by omega) message.fits

/-- The bytes between the header and a cut are the front of the payload. -/
theorem payload_cut {n : ℕ} (hn : n ≤ cut) (hpayload : n ≤ 16+message.payload.length) :
    (((message.encode ++ behind).take cut).take n).drop 16=message.payload.take (n-16) := by
  have hheader : message.header.flatten.length=16 := rfl
  have hdrop : (message.header.flatten ++ (message.payload ++ (message.padding ++ behind))).drop 16=
      message.payload ++ (message.padding ++ behind) := by
    rw [← hheader,List.drop_left]
  unfold NetlinkMessage.encode
  rw [List.take_take,Nat.min_eq_left hn,List.drop_take,List.append_assoc,List.append_assoc,hdrop,
    List.take_append_of_le_length (by omega)]

/-- A message that is there up to a cut behind its header is listed as such. -/
theorem itemOf_cut (hcut : 16 ≤ cut) :
    itemOf ((message.encode ++ behind).take cut)=
      message.cutItem (min cut (16+message.payload.length)) := by
  have hlength := length_encode message
  have hlen : messageLen ((message.encode ++ behind).take cut)=
      min cut (16+message.payload.length) := by
    unfold messageLen
    rw [field_cut_length message hcut,List.length_take,List.length_append,hlength]
    unfold alignedLen
    omega
  have htype : field ((message.encode ++ behind).take cut) 4 2=message.nlmsgType.toNat :=
    field_cut message hcut 1 rfl rfl (by omega) message.nlmsgType.toNat_lt
  have hflags : field ((message.encode ++ behind).take cut) 6 2=message.nlmsgFlags.toNat :=
    field_cut message hcut 2 rfl rfl (by omega) message.nlmsgFlags.toNat_lt
  have hseq : field ((message.encode ++ behind).take cut) 8 4=message.nlmsgSeq.toNat :=
    field_cut message hcut 3 rfl rfl (by omega) message.nlmsgSeq.toNat_lt
  have hpid : field ((message.encode ++ behind).take cut) 12 4=message.nlmsgPid.toNat :=
    field_cut message hcut 4 rfl rfl (by omega) message.nlmsgPid.toNat_lt
  unfold itemOf NetlinkMessage.cutItem
  rw [hlen,payload_cut message (by omega) (by omega),htype,hflags,hseq,hpid,UInt16.ofNat_toNat,
    UInt16.ofNat_toNat,UInt32.ofNat_toNat,UInt32.ofNat_toNat]

/-- What is cut off an encoded list is listed message by message. -/
theorem items_of_encodeAll (messages : List NetlinkMessage) (cut : ℕ) :
    (messageStarts ((encodeAll messages).take cut)).map itemOf=messagesIn messages cut := by
  induction messages generalizing cut with
  | nil =>
    unfold encodeAll messagesIn
    rw [List.map_nil,List.flatten_nil,List.take_nil,messageStarts_short (by decide)]
    rfl
  | cons message messages ih =>
    have hall : encodeAll (message::messages)=message.encode ++ encodeAll messages := by
      unfold encodeAll
      rw [List.map_cons,List.flatten_cons]
    have hlength := length_encode message
    have hdata : ((message.encode ++ encodeAll messages).take cut).length=
        min cut (alignedLen (16+message.payload.length)+(encodeAll messages).length) := by
      rw [List.length_take,List.length_append,hlength]
    have haligned : 16+message.payload.length ≤ alignedLen (16+message.payload.length) := by
      unfold alignedLen
      omega
    rw [hall]
    unfold messagesIn
    by_cases hshort : cut < 16
    · rw [if_pos hshort,messageStarts_short (by omega)]
      rfl
    · have hcut := Nat.le_of_not_lt hshort
      have hfield : field ((message.encode ++ encodeAll messages).take cut) 0 4=
          16+message.payload.length := field_cut_length message hcut
      have hitem : itemOf ((message.encode ++ encodeAll messages).take cut)=_ :=
        itemOf_cut message hcut
      rw [if_neg hshort,messageStarts_cons (by omega) (by omega),List.map_cons,hitem]
      unfold messageLen
      rw [hfield,hdata]
      by_cases hpartial : cut < 16+message.payload.length
      · have hmin : min (16+message.payload.length) (min cut
            (alignedLen (16+message.payload.length)+(encodeAll messages).length))=cut := by omega
        have hend : (((message.encode ++ encodeAll messages).take cut).drop
            (alignedLen cut)).length < 16 := by
          rw [List.length_drop,hdata]
          unfold alignedLen
          omega
        rw [if_pos hpartial,hmin,messageStarts_short hend,Nat.min_eq_left (Nat.le_of_lt hpartial)]
        rfl
      · have hmin : min (16+message.payload.length) (min cut
            (alignedLen (16+message.payload.length)+(encodeAll messages).length))=
            16+message.payload.length := by omega
        have hrest : ((message.encode ++ encodeAll messages).take cut).drop
            (alignedLen (16+message.payload.length))=
            (encodeAll messages).take (cut-alignedLen (16+message.payload.length)) := by
          rw [List.drop_take,← hlength,List.drop_left]
        rw [if_neg hpartial,hmin,hrest,ih,Nat.min_eq_right (Nat.le_of_not_lt hpartial)]

/-- The formatter lists some messages: the walk ends with them, each with its own text, and the
text of the buffer is made of theirs. -/
def Lists (catalog : FlagDecoder) (data : List UInt8) (items : List NetlinkItem) : Prop :=
  ∃ fuel shown, formatMessages catalog fuel data=.ok shown ∧ shown.map (·.item)=items ∧
    (∀ message∈shown, Rendered catalog message) ∧ format catalog (fuel+1) data=
      .ok (if data.length < 16 then buffer data else joinMessages shown)

/-- A buffer is listed message by message unless one of them is oversized. -/
theorem lists_of_sizes (catalog : FlagDecoder) {data : List UInt8}
    (h : ∀ start∈messageStarts data, ¬Oversized start) :
    Lists catalog data ((messageStarts data).map itemOf) := by
  rcases (walks_of_fuel catalog (2*data.length+1)).2 data (Nat.le_refl _) h with
    ⟨shown,hshown,hitems,hall⟩
  refine ⟨_,shown,hshown,hitems,hall,?_⟩
  rw [format]
  split_ifs with hshort
  · rfl
  · rw [hshown]
    rfl

/-- With an oversized message the formatter never returns. -/
theorem format_diverges (catalog : FlagDecoder) {data : List UInt8}
    (h : ∃ start∈messageStarts data, Oversized start) (fuel : ℕ) :
    format catalog fuel data=.error .fuel := by
  cases fuel with
  | zero => rw [format]
  | succ fuel =>
    have hlong : ¬data.length < 16 := by
      intro hshort
      rcases h with ⟨start,hstart,-⟩
      rw [messageStarts_short hshort] at hstart
      exact List.not_mem_nil hstart
    rw [format,if_neg hlong,diverges_of_oversized fuel h]
    rfl

/-- A header with the largest length. -/
def largestHeader : List UInt8 := [0xFF,0xFF,0xFF,0xFF,3,0,0,0,0,0,0,0,0,0,0,0]

end Encoding

end StraceGo.NetlinkMessages
