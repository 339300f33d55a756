import Santamon.Events.Message

namespace Santamon.Events

def base64Alphabet : List Char :=
  "ABCDEFGHIJKLMNOPQRSTUVWXYZabcdefghijklmnopqrstuvwxyz0123456789+/".toList

def base64Char (n : Nat) : Char := base64Alphabet.getD n '='

def base64Value (c : Char) : Option Nat := base64Alphabet.indexOf? c

/-- `base64.StdEncoding.EncodeToString`, as protojson writes a `bytes` field. -/
def base64Encode : List UInt8 → List Char
  | a :: b :: c :: rest =>
    let n := a.toNat * 65536 + b.toNat * 256 + c.toNat
    [base64Char (n / 262144), base64Char (n / 4096 % 64), base64Char (n / 64 % 64),
      base64Char (n % 64)] ++ base64Encode rest
  | [a, b] =>
    let n := a.toNat * 65536 + b.toNat * 256
    [base64Char (n / 262144), base64Char (n / 4096 % 64), base64Char (n / 64 % 64), '=']
  | [a] =>
    let n := a.toNat * 65536
    [base64Char (n / 262144), base64Char (n / 4096 % 64), '=', '=']
  | [] => []

/-- The quanta of `base64.StdEncoding.DecodeString` once line breaks are dropped. -/
def base64Quanta : List Char → Option (List UInt8)
  | [] => some []
  | [c0, c1, '=', '='] => do
    let n := (← base64Value c0) * 262144 + (← base64Value c1) * 4096
    pure [UInt8.ofNat (n / 65536)]
  | [c0, c1, c2, '='] => do
    let n := (← base64Value c0) * 262144 + (← base64Value c1) * 4096 + (← base64Value c2) * 64
    pure [UInt8.ofNat (n / 65536), UInt8.ofNat (n / 256 % 256)]
  | c0 :: c1 :: c2 :: c3 :: rest => do
    let n := (← base64Value c0) * 262144 + (← base64Value c1) * 4096 +
      (← base64Value c2) * 64 + (← base64Value c3)
    let tail ← base64Quanta rest
    pure ([UInt8.ofNat (n / 65536), UInt8.ofNat (n / 256 % 256), UInt8.ofNat (n % 256)] ++ tail)
  | _ => none

def base64Decode? (s : String) : Option (List UInt8) :=
  base64Quanta (s.toList.filter (fun c => c ≠ '\r' ∧ c ≠ '\n'))

/-- `decodeBase64List`: `none` where the Go code returns `false`. -/
def decodeBase64List : Option Value → Option Value
  | some (.list vs) =>
    some (.list (vs.map fun
      | .str s => .str ((base64Decode? s).elim s bytesToString)
      | v => .str v.fmtV))
  | _ => none

/-- `decodeExecutionStringLists`. -/
def decodeExecutionStringLists (m : EventMap) : EventMap :=
  match m.field? "execution" with
  | some (.obj ex) =>
    let ex := match decodeBase64List (EventMap.field? ex "args") with
      | some d => EventMap.put ex "args" d
      | none => ex
    let ex := match decodeBase64List (EventMap.field? ex "envs") with
      | some d => EventMap.put ex "envs" d
      | none => ex
    m.put "execution" (.obj ex)
  | _ => m

/-- A protojson object; a field whose value is `none` is unset with presence, and not written. -/
def fields (l : List (String × Option Value)) : EventMap :=
  l.filterMap fun kv => kv.2.map (kv.1, ·)

@[simp] theorem fields_nil : fields [] = [] := rfl

@[simp] theorem fields_cons_some (k : String) (v : Value) (l : List (String × Option Value)) :
    fields ((k, some v) :: l) = (k, v) :: fields l := rfl

@[simp] theorem fields_cons_none (k : String) (l : List (String × Option Value)) :
    fields ((k, none) :: l) = fields l := rfl

theorem lookup_fields_append_of_ne {k : String} (l : List (String × Option Value)) (m : EventMap)
    (h : ∀ kv ∈ l, kv.1 ≠ k) : (fields l ++ m).lookup k = m.lookup k := by
  induction l with
  | nil => rfl
  | cons kv l ih =>
    obtain ⟨k', o⟩ := kv
    have hk : k' ≠ k := h _ (List.mem_cons_self _ _)
    have ih' := ih fun kv hkv => h kv (List.mem_cons_of_mem _ hkv)
    cases o <;> simp [List.lookup_cons, beq_false_of_ne (Ne.symm hk), ih']

def optStr : Option String → Option Value := Option.map .str

def optNum : Option Int → Option Value := Option.map .num

def optBool : Option Bool → Option Value := Option.map .bool

/-- protojson of a singular message field: `null` when unset. -/
def optObj {α : Type} (f : α → EventMap) : Option α → Value
  | some a => .obj (f a)
  | none => .null

/-- The name of an enum value; an unknown number prints as itself. -/
def enumName (names : List String) (n : Nat) : String := names.getD n (toString n)

def decisionNames : List String :=
  ["DECISION_UNKNOWN", "DECISION_ALLOW", "DECISION_DENY", "DECISION_ALLOW_COMPILER"]

def policyDecisionNames : List String :=
  ["POLICY_DECISION_UNKNOWN", "POLICY_DECISION_DENIED",
    "POLICY_DECISION_DENIED_INVALID_SIGNATURE", "POLICY_DECISION_ALLOWED_AUDIT_ONLY"]

/-- protojson of an enum value: its name, or its number when the enum has no such value. -/
def enumValue (names : List String) (n : Nat) : Value :=
  if n < names.length then .str (enumName names n) else .num n

def optEnum (names : List String) : Option Nat → Option Value := Option.map (enumValue names)

theorem enumValue_ne_null (names : List String) (n : Nat) : enumValue names n ≠ .null := by
  simp only [enumValue]
  split <;> exact fun h => Value.noConfusion h

theorem enumValue_toString (names : List String) (n : Nat) :
    (enumValue names n).toString = enumName names n := by
  simp only [enumValue]
  split
  · rfl
  · next hn =>
    rw [enumName, List.getD_eq_getElem?_getD, List.getElem?_eq_none (by omega)]
    rfl

/-- protojson of a `Timestamp` field; `none` where `Marshal` fails. -/
def optTimestamp : Option Timestamp → Option Value
  | some ts => ts.toJson?.map .str
  | none => some .null

def ProcessID.toJson (p : ProcessID) : EventMap :=
  fields [("pid", optNum p.pid), ("pidversion", optNum p.pidversion)]

def FileInfo.toJson (f : FileInfo) : EventMap :=
  fields [("path", optStr f.path),
    ("hash", some (optObj (fun h : Hash => fields [("hash", optStr h.hash)]) f.hash))]

def ProcessInfo.toJson (p : ProcessInfo) (start : Value) : EventMap :=
  fields [("id", some (optObj ProcessID.toJson p.id)),
    ("parent_id", some (optObj ProcessID.toJson p.parentId)),
    ("responsible_id", some (optObj ProcessID.toJson p.responsibleId)),
    ("executable", some (optObj FileInfo.toJson p.executable)),
    ("effective_user", some (optObj (fun u : UserInfo =>
      fields [("uid", optNum u.uid), ("name", optStr u.name)]) p.effectiveUser)),
    ("effective_group", some (optObj (fun g : GroupInfo =>
      fields [("gid", optNum g.gid), ("name", optStr g.name)]) p.effectiveGroup)),
    ("session_id", optNum p.sessionId), ("start_time", some start),
    ("code_signature", some (optObj (fun c : CodeSignature =>
      fields [("team_id", optStr c.teamId), ("signing_id", optStr c.signingId)]) p.codeSignature)),
    ("is_platform_binary", optBool p.isPlatformBinary)]

def optProcessInfo : Option ProcessInfo → Option Value
  | some p => (optTimestamp p.startTime).map fun st => .obj (p.toJson st)
  | none => some .null

def ProcessInfoLight.toJson (p : ProcessInfoLight) : EventMap :=
  [("id", optObj ProcessID.toJson p.id),
    ("executable", optObj (fun f : FileInfoLight => fields [("path", optStr f.path)]) p.executable)]

def bytesList (bs : List (List UInt8)) : Value :=
  .list (bs.map fun b => .str (base64Encode b).asString)

/-- protojson of the set member of the `event` oneof; `none` where `Marshal` fails. -/
def Event.toJson? : Event → Option EventMap
  | .execution e => do
    let target ← optProcessInfo e.target
    pure [("execution", .obj (fields [("instigator", some (optObj ProcessInfoLight.toJson e.instigator)),
      ("target", some target), ("decision", optEnum decisionNames e.decision),
      ("args", some (bytesList e.args)), ("envs", some (bytesList e.envs))]))]
  | .fileAccess f => do
    let inst ← optProcessInfo f.instigator
    pure [("file_access", .obj (fields [("instigator", some inst),
      ("target", some (optObj (fun t : FileInfoLight => fields [("path", optStr t.path)]) f.target)),
      ("policy_name", optStr f.policyName),
      ("policy_decision", optEnum policyDecisionNames f.policyDecision)]))]
  | .xprotect x =>
    some [("xprotect", .obj [("detected", optObj (fun d : XProtectDetected =>
      fields [("detected_path", optStr d.detectedPath)]) x.detected)])]
  | .other k payload => some [(k.name, .obj payload)]
  | .unset => some []

/-- `events.ToMap`. -/
def toMap (msg : SantaMessage) : Except String EventMap :=
  match optTimestamp msg.eventTime, optTimestamp msg.processedTime, msg.event.toJson? with
  | some et, some pt, some ev =>
    .ok (decodeExecutionStringLists
      (fields [("machine_id", optStr msg.machineId), ("boot_session_uuid", optStr msg.bootSessionUuid),
        ("event_time", some et), ("processed_time", some pt)] ++ ev))
  | _, _, _ => .error "proto: timestamp out of range"

/-- `events.BuildActivation`: the metadata fields written into the map. -/
def buildActivation (msg : SantaMessage) (m : EventMap) : EventMap :=
  let m := ((m.put "machine_id" (.str msg.getMachineId)).put "boot_session_uuid"
    (.str msg.getBootSessionUuid)).put "kind" (.str (kind msg))
  let m := match msg.eventTime with
    | some ts => m.put "event_time" (.time ts.asTime)
    | none => m
  match msg.processedTime with
  | some pt => m.put "processed_time" (.time pt.asTime)
  | none => m

theorem buildActivation_event_time (msg : SantaMessage) (m : EventMap) {ts : Timestamp}
    (ht : msg.eventTime = some ts) :
    (buildActivation msg m).field? "event_time" = some (.time ts.asTime) := by
  unfold buildActivation
  rw [ht]
  cases msg.processedTime
  · exact EventMap.field?_put_self _ _ _
  · rw [EventMap.field?_put_ne _ _ (by decide)]
    exact EventMap.field?_put_self _ _ _

/-- The keys `ToMap` and `BuildActivation` write beside the event's own key. -/
def metaKeys : List String :=
  ["machine_id", "boot_session_uuid", "kind", "event_time", "processed_time"]

theorem buildActivation_field? (msg : SantaMessage) (m : EventMap) {k : String}
    (hk : k ∉ metaKeys) : (buildActivation msg m).field? k = m.field? k := by
  simp only [metaKeys, List.mem_cons, List.not_mem_nil, or_false, not_or] at hk
  obtain ⟨h1, h2, h3, h4, h5⟩ := hk
  unfold buildActivation
  cases msg.eventTime <;> cases msg.processedTime <;>
    simp only [EventMap.field?_put_ne _ _ h1, EventMap.field?_put_ne _ _ h2,
      EventMap.field?_put_ne _ _ h3, EventMap.field?_put_ne _ _ h4, EventMap.field?_put_ne _ _ h5]

theorem decodeExecutionStringLists_field?_ne (m : EventMap) {k : String} (hk : k ≠ "execution") :
    (decodeExecutionStringLists m).field? k = m.field? k := by
  unfold decodeExecutionStringLists
  split
  · exact EventMap.field?_put_ne _ _ hk
  · rfl

theorem decodeExecutionStringLists_execution (m : EventMap) {k : String} (ha : k ≠ "args")
    (he : k ≠ "envs") (ks : List String) :
    walk ((decodeExecutionStringLists m).field? "execution") (k :: ks) =
      walk (m.field? "execution") (k :: ks) := by
  unfold decodeExecutionStringLists
  split
  · next ex hex =>
    rw [EventMap.field?_put_self, hex]
    show walk (EventMap.field? _ k) ks = walk (EventMap.field? ex k) ks
    split <;> split <;> simp only [EventMap.field?_put_ne _ _ ha, EventMap.field?_put_ne _ _ he]
  · rfl

theorem decodeExecutionStringLists_isSome (m : EventMap) (k : String) :
    ((decodeExecutionStringLists m).field? k).isSome = (m.field? k).isSome := by
  by_cases hk : k = "execution"
  · subst hk
    unfold decodeExecutionStringLists
    split
    · next hex => rw [EventMap.field?_put_self, hex]; rfl
    · rfl
  · rw [decodeExecutionStringLists_field?_ne m hk]

theorem optProcessInfo_eq_some {p : Option ProcessInfo} {v : Value}
    (h : optProcessInfo p = some v) :
    p = none ∧ v = .null ∨ ∃ t st, p = some t ∧ v = .obj (t.toJson st) := by
  cases p with
  | none => exact .inl ⟨rfl, (Option.some.inj h).symm⟩
  | some t =>
    simp only [optProcessInfo, Option.map_eq_some'] at h
    obtain ⟨st, -, rfl⟩ := h
    exact .inr ⟨t, st, rfl, rfl⟩

theorem toJson?_execution {e : Execution} {ev : EventMap}
    (hev : (Event.execution e).toJson? = some ev) :
    ∃ target, optProcessInfo e.target = some target ∧
      ev = [("execution", .obj (fields [("instigator", some (optObj ProcessInfoLight.toJson e.instigator)),
        ("target", some target), ("decision", optEnum decisionNames e.decision),
        ("args", some (bytesList e.args)), ("envs", some (bytesList e.envs))]))] := by
  simp only [Event.toJson?, Option.bind_eq_bind, Option.bind_eq_some, Option.pure_def,
    Option.some.injEq] at hev
  obtain ⟨v, hv, rfl⟩ := hev
  exact ⟨v, hv, rfl⟩

theorem toJson?_fileAccess {f : FileAccess} {ev : EventMap}
    (hev : (Event.fileAccess f).toJson? = some ev) :
    ∃ inst, optProcessInfo f.instigator = some inst ∧
      ev = [("file_access", .obj (fields [("instigator", some inst),
        ("target", some (optObj (fun t : FileInfoLight => fields [("path", optStr t.path)]) f.target)),
        ("policy_name", optStr f.policyName),
        ("policy_decision", optEnum policyDecisionNames f.policyDecision)]))] := by
  simp only [Event.toJson?, Option.bind_eq_bind, Option.bind_eq_some, Option.pure_def,
    Option.some.injEq] at hev
  obtain ⟨v, hv, rfl⟩ := hev
  exact ⟨v, hv, rfl⟩

theorem toJson?_execution_field? {E : Event} {ev : EventMap} (hev : E.toJson? = some ev)
    (hE : ∀ e, E ≠ .execution e) : ev.field? "execution" = none := by
  cases E with
  | execution e => exact absurd rfl (hE e)
  | fileAccess f => obtain ⟨_, _, rfl⟩ := toJson?_fileAccess hev; rfl
  | xprotect x => cases hev; rfl
  | other o p =>
    cases hev
    simp [EventMap.field?, List.lookup_cons, beq_false_of_ne o.name_ne_execution.symm]
  | unset => cases hev; rfl

theorem toJson?_file_access_field? {E : Event} {ev : EventMap} (hev : E.toJson? = some ev)
    (hE : ∀ f, E ≠ .fileAccess f) : ev.field? "file_access" = none := by
  cases E with
  | execution e => obtain ⟨_, _, rfl⟩ := toJson?_execution hev; rfl
  | fileAccess f => exact absurd rfl (hE f)
  | xprotect x => cases hev; rfl
  | other o p =>
    cases hev
    simp [EventMap.field?, List.lookup_cons, beq_false_of_ne o.name_ne_file_access.symm]
  | unset => cases hev; rfl

end Santamon.Events
