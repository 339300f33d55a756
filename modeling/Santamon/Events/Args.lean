import Santamon.Events.ToMap

namespace Santamon.Events

theorem base64Value_base64Char : ∀ n < 64, base64Value (base64Char n) = some n := by
  decide

theorem base64Char_ne {n : Nat} (hn : n < 64) {c : Char} (hc : base64Value c = none) :
    base64Char n ≠ c :=
  fun h => by simpa [h, hc] using base64Value_base64Char n hn

theorem base64Char_ne_pad {n : Nat} (hn : n < 64) : base64Char n ≠ '=' :=
  base64Char_ne hn (by decide)

theorem uint8_ofNat_toNat (a : UInt8) : UInt8.ofNat a.toNat = a :=
  UInt8.toNat.inj (UInt8.toNat_ofNat_of_lt a.toNat_lt_size)

theorem base64Quanta_cons {c0 c1 c2 c3 : Char} {v0 v1 v2 v3 : Nat} (rest : List Char)
    (h2 : c2 ≠ '=') (h3 : c3 ≠ '=') (e0 : base64Value c0 = some v0)
    (e1 : base64Value c1 = some v1) (e2 : base64Value c2 = some v2)
    (e3 : base64Value c3 = some v3) :
    base64Quanta (c0 :: c1 :: c2 :: c3 :: rest) = (base64Quanta rest).map fun tail =>
      [UInt8.ofNat ((v0 * 262144 + v1 * 4096 + v2 * 64 + v3) / 65536),
        UInt8.ofNat ((v0 * 262144 + v1 * 4096 + v2 * 64 + v3) / 256 % 256),
        UInt8.ofNat ((v0 * 262144 + v1 * 4096 + v2 * 64 + v3) % 256)] ++ tail := by
  cases rest <;> simp [base64Quanta, h2, h3, e0, e1, e2, e3, Option.map_eq_bind, Function.comp_def]

theorem base64Encode_no_newline (b : List UInt8) : ∀ c ∈ base64Encode b, c ≠ '\r' ∧ c ≠ '\n' := by
  have hc : ∀ n, base64Char n ≠ '\r' ∧ base64Char n ≠ '\n' := by
    intro n
    rcases lt_or_le n 64 with h | h
    · exact ⟨base64Char_ne h (by decide), base64Char_ne h (by decide)⟩
    · have hl : base64Alphabet.length ≤ n := h
      simp [base64Char, List.getElem?_eq_none hl]
  induction b using base64Encode.induct <;> simp [base64Encode, hc]
  assumption

theorem base64Quanta_base64Encode (b : List UInt8) : base64Quanta (base64Encode b) = some b := by
  induction b using base64Encode.induct with
  | case1 a b c rest ih =>
    have ha := a.toNat_lt_size
    have hb := b.toNat_lt_size
    have hc := c.toNat_lt_size
    simp only [UInt8.size] at ha hb hc
    simp only [base64Encode]
    set N := a.toNat * 65536 + b.toNat * 256 + c.toNat with hN
    rw [List.cons_append, List.cons_append, List.cons_append, List.cons_append, List.nil_append,
      base64Quanta_cons _ (base64Char_ne_pad (by omega)) (base64Char_ne_pad (by omega))
        (base64Value_base64Char (N / 262144) (by omega))
        (base64Value_base64Char (N / 4096 % 64) (by omega))
        (base64Value_base64Char (N / 64 % 64) (by omega))
        (base64Value_base64Char (N % 64) (by omega)), ih]
    have hM : N / 262144 * 262144 + N / 4096 % 64 * 4096 + N / 64 % 64 * 64 + N % 64 = N := by
      omega
    simp only [hM, Option.map_some', List.cons_append, List.nil_append, Option.some.injEq,
      List.cons.injEq, and_true]
    refine ⟨?_, ?_, ?_⟩
    · rw [(by omega : N / 65536 = a.toNat), uint8_ofNat_toNat]
    · rw [(by omega : N / 256 % 256 = b.toNat), uint8_ofNat_toNat]
    · rw [(by omega : N % 256 = c.toNat), uint8_ofNat_toNat]
  | case2 a b =>
    have ha := a.toNat_lt_size
    have hb := b.toNat_lt_size
    simp only [UInt8.size] at ha hb
    rw [base64Encode.eq_2]
    set N := a.toNat * 65536 + b.toNat * 256 with hN
    rw [base64Quanta.eq_3 _ _ _ (base64Char_ne_pad (by omega)),
      base64Value_base64Char (N / 262144) (by omega),
      base64Value_base64Char (N / 4096 % 64) (by omega),
      base64Value_base64Char (N / 64 % 64) (by omega)]
    have hM : N / 262144 * 262144 + N / 4096 % 64 * 4096 + N / 64 % 64 * 64 = N := by omega
    simp only [Option.bind_eq_bind, Option.some_bind, Option.pure_def, hM]
    rw [(by omega : N / 65536 = a.toNat), (by omega : N / 256 % 256 = b.toNat), uint8_ofNat_toNat,
      uint8_ofNat_toNat]
  | case3 a =>
    have ha := a.toNat_lt_size
    simp only [UInt8.size] at ha
    rw [base64Encode.eq_3, base64Quanta.eq_2, base64Value_base64Char _ (by omega),
      base64Value_base64Char _ (by omega)]
    have hM : a.toNat * 65536 / 262144 * 262144 + a.toNat * 65536 / 4096 % 64 * 4096 =
        a.toNat * 65536 := by omega
    simp only [Option.bind_eq_bind, Option.some_bind, Option.pure_def, hM]
    rw [(by omega : a.toNat * 65536 / 65536 = a.toNat), uint8_ofNat_toNat]
  | case4 => rfl

theorem base64Decode_base64Encode (b : List UInt8) :
    base64Decode? (base64Encode b).asString = some b := by
  rw [base64Decode?, show (base64Encode b).asString.toList = base64Encode b from rfl,
    List.filter_eq_self.mpr fun c hc => decide_eq_true (base64Encode_no_newline b c hc),
    base64Quanta_base64Encode]

theorem decodeBase64List_bytesList (bs : List (List UInt8)) :
    decodeBase64List (some (bytesList bs)) = some (.list (bs.map fun b => .str (bytesToString b))) := by
  simp only [decodeBase64List, bytesList, List.map_map, Option.some.injEq, Value.list.injEq]
  exact List.map_congr_left fun b _ => by simp [base64Decode_base64Encode]

theorem toMap_execution_args (msg : SantaMessage) {e : Execution}
    (he : msg.event = .execution e) {m : EventMap} (hm : toMap msg = .ok m) :
    ∃ ex, m.field? "execution" = some (.obj ex) ∧
      EventMap.field? ex "args" = some (.list ((decodedArgs msg).map .str)) ∧
      EventMap.field? ex "envs" = some (.list (e.envs.map fun b => .str (bytesToString b))) := by
  unfold toMap at hm
  rw [he] at hm
  split at hm
  · rename_i ev _ _ hev
    simp only [Event.toJson?, Option.bind_eq_bind, Option.bind_eq_some, Option.pure_def,
      Option.some.injEq] at hev
    obtain ⟨tgt, -, rfl⟩ := hev
    cases hm
    cases e.decision <;>
      simp [decodeExecutionStringLists, EventMap.field?, lookup_fields_append_of_ne, optEnum,
        List.lookup_cons, decodeBase64List_bytesList, decodedArgs, he, EventMap.put]
  · exact nomatch hm

/-- An execution with arguments `hi` and the bytes `00 ff`, and one empty environment string. -/
def binaryExecution : Execution := ⟨none, none, none, [[104, 105], [0, 255]], [[]]⟩

def binaryMessage : SantaMessage := ⟨none, none, none, none, .execution binaryExecution⟩

/-- The map `ToMap` builds for `binaryMessage`. -/
def binaryMap : EventMap :=
  match toMap binaryMessage with
  | .ok m => m
  | .error _ => []

theorem toMap_execution_args_binary :
    binaryMessage.event = .execution binaryExecution ∧ toMap binaryMessage = .ok binaryMap ∧
      ∃ ex, binaryMap.field? "execution" = some (.obj ex) ∧
        EventMap.field? ex "args" = some (.list ((decodedArgs binaryMessage).map .str)) ∧
        EventMap.field? ex "envs" =
          some (.list (binaryExecution.envs.map fun b => .str (bytesToString b))) :=
  ⟨rfl, rfl, toMap_execution_args binaryMessage rfl rfl⟩

end Santamon.Events
