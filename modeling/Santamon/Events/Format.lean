import Santamon.Events.Clock
import Mathlib.Data.Nat.Digits

namespace Santamon.Events

theorem pushn_data (c : Char) (k : Nat) : ("".pushn c k).data = List.replicate k c := by
  induction k with
  | zero => rfl
  | succ k ih =>
    show (("".pushn c k).push c).data = _
    rw [String.data_push, ih, List.replicate_succ']

theorem digitChar_of_lt :
    ∀ d < 10, (Nat.digitChar d).isDigit ∧ (Nat.digitChar d).toNat - '0'.toNat = d := by
  decide

theorem toDigitsCore_isDigit (f n : Nat) (ds : List Char) :
    ∀ c ∈ Nat.toDigitsCore 10 f n ds, c.isDigit ∨ c ∈ ds := by
  induction f generalizing n ds with
  | zero => exact fun c hc => .inr hc
  | succ f ih =>
    have hd := (digitChar_of_lt (n % 10) (Nat.mod_lt _ (by omega))).1
    intro c hc
    simp only [Nat.toDigitsCore] at hc
    split at hc
    · rcases List.mem_cons.mp hc with rfl | hc
      · exact .inl hd
      · exact .inr hc
    · rcases ih _ _ c hc with h | h
      · exact .inl h
      · rcases List.mem_cons.mp h with rfl | h
        · exact .inl hd
        · exact .inr h

theorem toDigitsCore_value (f n : Nat) (ds : List Char) (h : n < f) :
    (Nat.toDigitsCore 10 f n ds).foldl (fun n c => n * 10 + (c.toNat - '0'.toNat)) 0 =
      ds.foldl (fun n c => n * 10 + (c.toNat - '0'.toNat)) n := by
  induction f generalizing n ds with
  | zero => omega
  | succ f ih =>
    have hd := (digitChar_of_lt (n % 10) (Nat.mod_lt _ (by omega))).2
    simp only [Nat.toDigitsCore]
    split
    · simp only [List.foldl_cons, hd]
      congr 1
      omega
    · rw [ih _ _ (by omega), List.foldl_cons, hd]
      congr 1
      omega

theorem pad_data (w n : Nat) :
    (pad w n).data = List.replicate (w - (toString n).length) '0' ++ Nat.toDigitsCore 10 (n + 1) n [] := by
  simp only [pad, String.data_append, pushn_data]
  rfl

theorem pad_isDigit (w n : Nat) : ∀ c ∈ (pad w n).data, c.isDigit := by
  intro c hc
  rw [pad_data] at hc
  rcases List.mem_append.mp hc with h | h
  · rw [List.eq_of_mem_replicate h]; rfl
  · simpa using toDigitsCore_isDigit _ _ _ c h

theorem pad_value (w n : Nat) :
    (pad w n).data.foldl (fun n c => n * 10 + (c.toNat - '0'.toNat)) 0 = n := by
  have hz (k : Nat) :
      (List.replicate k '0').foldl (fun n c => n * 10 + (c.toNat - '0'.toNat)) 0 = 0 := by
    induction k with
    | zero => rfl
    | succ k ih => rw [List.replicate_succ, List.foldl_cons]; exact ih
  rw [pad_data, List.foldl_append, hz, toDigitsCore_value _ _ _ (Nat.lt_succ_self n)]
  rfl

theorem pad_injective {w a b : Nat} (h : (pad w a).data = (pad w b).data) : a = b := by
  rw [← pad_value w a, ← pad_value w b, h]

theorem pad_two_length : ∀ n < 100, (pad 2 n).data.length = 2 := by
  decide

theorem padYear_char (y : Int) : ∀ c ∈ (padYear y).data, c.isDigit ∨ c = '-' := by
  intro c hc
  unfold padYear at hc
  split at hc
  · rcases List.mem_append.mp hc with h | h
    · exact .inr (List.mem_singleton.mp h)
    · exact .inl (pad_isDigit _ _ c h)
  · exact .inl (pad_isDigit _ _ c hc)

theorem padYear_injective {y₁ y₂ : Int} (h : (padYear y₁).data = (padYear y₂).data) : y₁ = y₂ := by
  have hdash (n : Nat) : '-' ∉ (pad 4 n).data := fun hm => by
    simpa using pad_isDigit 4 n '-' hm
  unfold padYear at h
  split at h <;> split at h
  · have := pad_injective (List.cons.inj h).2
    omega
  · have hm : '-' ∈ ("-" ++ pad 4 y₁.natAbs).data :=
      List.mem_append_left _ (List.mem_singleton_self '-')
    exact absurd (h ▸ hm) (hdash _)
  · have hm : '-' ∈ ("-" ++ pad 4 y₂.natAbs).data :=
      List.mem_append_left _ (List.mem_singleton_self '-')
    exact absurd (h.symm ▸ hm) (hdash _)
  · have := pad_injective h
    omega

theorem doe_split (doe : Int) (h0 : 0 ≤ doe) (h1 : doe ≤ 146096) :
    ∃ C Q Y d : Int, (0 ≤ C ∧ C ≤ 3) ∧ (0 ≤ Q ∧ Q ≤ 24) ∧ (0 ≤ Y ∧ Y ≤ 3) ∧ (0 ≤ d ∧ d ≤ 365) ∧
      (d = 365 → Y = 3 ∧ (Q < 24 ∨ C = 3)) ∧ doe = 36524 * C + 1461 * Q + 365 * Y + d := by
  obtain ⟨C, hC, r, hr0, hr1, rfl⟩ : ∃ C : Int, (0 ≤ C ∧ C ≤ 3) ∧ ∃ r : Int, 0 ≤ r ∧
      (r ≤ 36523 ∨ C = 3 ∧ r = 36524) ∧ doe = 36524 * C + r :=
    ⟨min (doe / 36524) 3, by omega, doe - 36524 * min (doe / 36524) 3, by omega, by omega, by omega⟩
  obtain ⟨Q, s, hs0, hs1, rfl⟩ : ∃ Q s : Int, 0 ≤ s ∧ s ≤ 1460 ∧ r = 1461 * Q + s :=
    ⟨r / 1461, r % 1461, by omega, by omega, by omega⟩
  obtain ⟨Y, d, hY, hd, hd365, rfl⟩ : ∃ Y d : Int, (0 ≤ Y ∧ Y ≤ 3) ∧ (0 ≤ d ∧ d ≤ 365) ∧
      (d = 365 → Y = 3 ∧ s = 1460) ∧ s = 365 * Y + d :=
    ⟨min (s / 365) 3, s - 365 * min (s / 365) 3, by omega, by omega, by omega, by omega⟩
  exact ⟨C, Q, Y, d, hC, by omega, hY, hd, fun h => ⟨(hd365 h).1, by omega⟩, by omega⟩

theorem yoe_spec {doe : Int} (C Q Y d : Int) (hC : 0 ≤ C ∧ C ≤ 3) (hQ : 0 ≤ Q ∧ Q ≤ 24)
    (hY : 0 ≤ Y ∧ Y ≤ 3) (hd : 0 ≤ d ∧ d ≤ 365) (h365 : d = 365 → Y = 3 ∧ (Q < 24 ∨ C = 3))
    (hdoe : doe = 36524 * C + 1461 * Q + 365 * Y + d) :
    (doe - doe / 1460 + doe / 36524 - doe / 146096) / 365 = 100 * C + 4 * Q + Y := by
  by_cases hl : doe = 146096
  · have hC3 : C = 3 := by omega
    have hQ24 : Q = 24 := by omega
    have hY3 : Y = 3 := by omega
    rw [hl]; omega
  · have h1 : doe / 36524 = C := by omega
    have h2 : doe / 146096 = 0 := by omega
    have h3 : doe / 1460 = 25 * C + Q + (24 * C + Q + 365 * Y + d) / 1460 := by omega
    rw [h1, h2, h3]
    omega

theorem yoe_bounds {doe yoe : Int} (h0 : 0 ≤ doe) (h1 : doe ≤ 146096)
    (hy : yoe = (doe - doe / 1460 + doe / 36524 - doe / 146096) / 365) :
    0 ≤ yoe ∧ yoe ≤ 399 ∧ 365 * yoe + yoe / 4 - yoe / 100 ≤ doe ∧
      doe ≤ 365 * yoe + yoe / 4 - yoe / 100 + 365 := by
  obtain ⟨C, Q, Y, d, hC, hQ, hY, hd, h365, hdoe⟩ := doe_split doe h0 h1
  rw [hy, yoe_spec C Q Y d hC hQ hY hd h365 hdoe]
  have h4 : (100 * C + 4 * Q + Y) / 4 = 25 * C + Q := by omega
  have h100 : (100 * C + 4 * Q + Y) / 100 = C := by omega
  rw [h4, h100]
  omega

theorem civil_round_trip {z era doe yoe doy mp : Int} (hera : (z + 719468) / 146097 = era)
    (hdoe : z + 719468 - era * 146097 = doe)
    (hyoe : (doe - doe / 1460 + doe / 36524 - doe / 146096) / 365 = yoe)
    (hdoy : doe - (365 * yoe + yoe / 4 - yoe / 100) = doy) (hmp : (5 * doy + 2) / 153 = mp) :
    1 ≤ (if mp < 10 then mp + 3 else mp - 9).toNat ∧
      (if mp < 10 then mp + 3 else mp - 9).toNat ≤ 12 ∧
      1 ≤ (doy - (153 * mp + 2) / 5 + 1).toNat ∧ (doy - (153 * mp + 2) / 5 + 1).toNat ≤ 31 ∧
      daysFromCivil (yoe + era * 400 + if (if mp < 10 then mp + 3 else mp - 9) ≤ 2 then 1 else 0)
        (if mp < 10 then mp + 3 else mp - 9).toNat (doy - (153 * mp + 2) / 5 + 1).toNat = z := by
  obtain ⟨hy0, hy1, hy2, hy3⟩ := yoe_bounds (by omega) (by omega) hyoe.symm
  have hday : 1 ≤ doy - (153 * mp + 2) / 5 + 1 ∧ doy - (153 * mp + 2) / 5 + 1 ≤ 31 := by omega
  have hera' : (yoe + era * 400) / 400 = era := by omega
  simp only [daysFromCivil]
  by_cases hlt : mp < 10
  · rw [if_pos hlt, if_neg (show ¬(mp + 3).toNat ≤ 2 by omega), if_neg (show ¬mp + 3 ≤ 2 by omega),
      if_pos (show (mp + 3).toNat > 2 by omega), Int.add_zero, hera', Int.add_sub_cancel,
      Int.toNat_of_nonneg (by omega : 0 ≤ mp + 3),
      Int.toNat_of_nonneg (by omega : 0 ≤ doy - (153 * mp + 2) / 5 + 1), Int.add_sub_cancel]
    omega
  · rw [if_neg hlt, if_pos (show (mp - 9).toNat ≤ 2 by omega), if_pos (show mp - 9 ≤ 2 by omega),
      if_neg (show ¬(mp - 9).toNat > 2 by omega), Int.add_sub_cancel, hera', Int.add_sub_cancel,
      Int.toNat_of_nonneg (by omega : 0 ≤ mp - 9),
      Int.toNat_of_nonneg (by omega : 0 ≤ doy - (153 * mp + 2) / 5 + 1), Int.sub_add_cancel]
    omega

theorem civilFromDays_spec (z : Int) :
    1 ≤ (civilFromDays z).2.1 ∧ (civilFromDays z).2.1 ≤ 12 ∧ 1 ≤ (civilFromDays z).2.2 ∧
      (civilFromDays z).2.2 ≤ 31 ∧
      daysFromCivil (civilFromDays z).1 (civilFromDays z).2.1 (civilFromDays z).2.2 = z :=
  civil_round_trip rfl rfl rfl rfl rfl

theorem civil_bounds (t : Time) :
    t.civil.month < 100 ∧ t.civil.day < 100 ∧ t.civil.hour < 100 ∧ t.civil.minute < 100 ∧
      t.civil.second < 100 := by
  obtain ⟨-, hm, -, hd, -⟩ := civilFromDays_spec (t / 1000000000 / 86400)
  have hr : (t / 1000000000 % 86400).toNat < 86400 := by omega
  exact ⟨show (civilFromDays (t / 1000000000 / 86400)).2.1 < 100 by omega,
    show (civilFromDays (t / 1000000000 / 86400)).2.2 < 100 by omega,
    show (t / 1000000000 % 86400).toNat / 3600 < 100 by omega,
    show (t / 1000000000 % 86400).toNat % 3600 / 60 < 100 by omega,
    show (t / 1000000000 % 86400).toNat % 60 < 100 by omega⟩

theorem formatRFC3339_data (t : Time) : t.formatRFC3339.data =
    (padYear t.civil.year).data ++ '-' :: ((pad 2 t.civil.month).data ++ '-' ::
      ((pad 2 t.civil.day).data ++ 'T' :: ((pad 2 t.civil.hour).data ++ ':' ::
        ((pad 2 t.civil.minute).data ++ ':' :: ((pad 2 t.civil.second).data ++ ['Z']))))) := by
  simp only [Time.formatRFC3339, Civil.dateTime, String.data_append, List.append_assoc]
  rfl

theorem formatRFC3339_no_bar (t : Time) : '|' ∉ t.formatRFC3339.data := by
  have hp (n : Nat) : '|' ∉ (pad 2 n).data := fun h => by simpa using pad_isDigit 2 n '|' h
  have hy : '|' ∉ (padYear t.civil.year).data := fun h => by
    simpa using padYear_char t.civil.year '|' h
  simp [formatRFC3339_data, hp, hy]

theorem pad_two_append {a b : Nat} (ha : a < 100) (hb : b < 100) {xs ys : List Char}
    (h : (pad 2 a).data ++ xs = (pad 2 b).data ++ ys) : a = b ∧ xs = ys := by
  obtain ⟨h₁, h₂⟩ := List.append_inj h (by rw [pad_two_length a ha, pad_two_length b hb])
  exact ⟨pad_injective h₁, h₂⟩

theorem div_eq_of_civil {t₁ t₂ : Time} (hy : t₁.civil.year = t₂.civil.year)
    (hm : t₁.civil.month = t₂.civil.month) (hd : t₁.civil.day = t₂.civil.day)
    (hh : t₁.civil.hour = t₂.civil.hour) (hmi : t₁.civil.minute = t₂.civil.minute)
    (hs : t₁.civil.second = t₂.civil.second) : t₁ / 1000000000 = t₂ / 1000000000 := by
  have hdays : t₁ / 1000000000 / 86400 = t₂ / 1000000000 / 86400 := by
    have hc : civilFromDays (t₁ / 1000000000 / 86400) = civilFromDays (t₂ / 1000000000 / 86400) :=
      Prod.ext hy (Prod.ext hm hd)
    rw [← (civilFromDays_spec (t₁ / 1000000000 / 86400)).2.2.2.2,
      ← (civilFromDays_spec (t₂ / 1000000000 / 86400)).2.2.2.2, hc]
  have hr : (t₁ / 1000000000 % 86400).toNat = (t₂ / 1000000000 % 86400).toNat := by
    have hh' : (t₁ / 1000000000 % 86400).toNat / 3600 = (t₂ / 1000000000 % 86400).toNat / 3600 := hh
    have hmi' : (t₁ / 1000000000 % 86400).toNat % 3600 / 60 =
      (t₂ / 1000000000 % 86400).toNat % 3600 / 60 := hmi
    have hs' : (t₁ / 1000000000 % 86400).toNat % 60 = (t₂ / 1000000000 % 86400).toNat % 60 := hs
    omega
  have hsec (s₁ s₂ : Int) (hd : s₁ / 86400 = s₂ / 86400)
      (hr : (s₁ % 86400).toNat = (s₂ % 86400).toNat) : s₁ = s₂ := by
    omega
  exact hsec _ _ hdays hr

theorem formatRFC3339_eq_iff (t₁ t₂ : Time) :
    t₁.formatRFC3339 = t₂.formatRFC3339 ↔ t₁ / 1000000000 = t₂ / 1000000000 := by
  constructor
  · intro h
    have h' := congrArg String.data h
    obtain ⟨b₁m, b₁d, b₁h, b₁mi, b₁s⟩ := civil_bounds t₁
    obtain ⟨b₂m, b₂d, b₂h, b₂mi, b₂s⟩ := civil_bounds t₂
    rw [formatRFC3339_data, formatRFC3339_data] at h'
    obtain ⟨hy, h'⟩ := List.append_inj' h' (by
      simp [pad_two_length _ b₁m, pad_two_length _ b₁d, pad_two_length _ b₁h,
        pad_two_length _ b₁mi, pad_two_length _ b₁s, pad_two_length _ b₂m, pad_two_length _ b₂d,
        pad_two_length _ b₂h, pad_two_length _ b₂mi, pad_two_length _ b₂s])
    obtain ⟨hm, h'⟩ := pad_two_append b₁m b₂m (List.cons.inj h').2
    obtain ⟨hd, h'⟩ := pad_two_append b₁d b₂d (List.cons.inj h').2
    obtain ⟨hh, h'⟩ := pad_two_append b₁h b₂h (List.cons.inj h').2
    obtain ⟨hmi, h'⟩ := pad_two_append b₁mi b₂mi (List.cons.inj h').2
    obtain ⟨hs, -⟩ := pad_two_append b₁s b₂s (List.cons.inj h').2
    exact div_eq_of_civil (padYear_injective hy) hm hd hh hmi hs
  · intro h
    simp only [Time.formatRFC3339, Civil.dateTime, Time.civil, h]

end Santamon.Events
