import Santamon.Events.Format

namespace Santamon.Events

theorem foldl_zeros (k acc : Nat) :
    (List.replicate k '0').foldl (fun n c => n * 10 + (c.toNat - '0'.toNat)) acc = acc * 10 ^ k := by
  induction k generalizing acc with
  | zero => simp
  | succ k ih =>
    rw [List.replicate_succ, List.foldl_cons, ih, pow_succ]
    simp [Nat.mul_assoc, Nat.mul_comm 10]

theorem toDigitsCore_ne_nil (n : Nat) : Nat.toDigitsCore 10 (n + 1) n [] ≠ [] := by
  simp only [Nat.toDigitsCore]
  split
  · exact List.cons_ne_nil _ _
  · exact List.ne_nil_of_length_pos (by rw [Nat.toDigitsCore_lens_eq]; omega)

theorem pad_length {w n : Nat} (h : (toString n).length ≤ w) : (pad w n).data.length = w := by
  have hs : (toString n).data = Nat.toDigitsCore 10 (n + 1) n [] := rfl
  rw [pad_data, List.length_append, List.length_replicate, ← hs]
  exact Nat.sub_add_cancel h

theorem digits?_pad (w n : Nat) : digits? (pad w n).data = some n := by
  have hne : (pad w n).data ≠ [] := by
    rw [pad_data]; exact List.append_ne_nil_of_right_ne_nil _ (toDigitsCore_ne_nil n)
  unfold digits?
  rw [if_neg, pad_value]
  simp only [not_or, List.isEmpty_iff, hne, not_false_eq_true, true_and, List.any_eq_true,
    Bool.not_eq_true', not_exists, not_and, Bool.not_eq_false]
  exact pad_isDigit w n

theorem digits?_append_zeros {cs : List Char} {v : Nat} (h : digits? cs = some v) (k : Nat) :
    digits? (cs ++ List.replicate k '0') = some (v * 10 ^ k) := by
  unfold digits? at h ⊢
  split at h
  · cases h
  · rename_i hc
    simp only [not_or, List.isEmpty_iff, List.any_eq_true, Bool.not_eq_true', not_exists,
      not_and, Bool.not_eq_false, Option.some.injEq] at hc h ⊢
    rw [if_neg, List.foldl_append, h, foldl_zeros]
    simp only [not_or, List.isEmpty_iff, List.append_eq_nil, hc.1, false_and, not_false_eq_true,
      List.any_eq_true, List.mem_append, Bool.not_eq_true', not_exists, not_and, true_and]
    rintro c (hm | hm)
    · simp [hc.2 c hm]
    · rw [List.eq_of_mem_replicate hm]; decide

example : digits? ['0', '4', '2'] = some 42 := by decide

theorem civil_day_le {z era doe yoe doy mp : Int} (hera : (z + 719468) / 146097 = era)
    (hdoe : z + 719468 - era * 146097 = doe)
    (hyoe : (doe - doe / 1460 + doe / 36524 - doe / 146096) / 365 = yoe)
    (hdoy : doe - (365 * yoe + yoe / 4 - yoe / 100) = doy) (hmp : (5 * doy + 2) / 153 = mp) :
    (doy - (153 * mp + 2) / 5 + 1).toNat ≤
      daysIn (yoe + era * 400 + if (if mp < 10 then mp + 3 else mp - 9) ≤ 2 then 1 else 0)
        (if mp < 10 then mp + 3 else mp - 9).toNat := by
  obtain ⟨C, Q, Y, d, hC, hQ, hY, hd, h365, hs⟩ := doe_split doe (by omega) (by omega)
  obtain rfl := hyoe.symm.trans (yoe_spec C Q Y d hC hQ hY hd h365 hs)
  obtain rfl : doy = d := by clear hera hdoe hyoe hmp; omega
  clear hera hdoe hyoe hdoy hs
  -- the last day of a March-based year is February 29 of a leap year
  have hleap : doy = 365 → isLeap (100 * C + 4 * Q + Y + era * 400 + 1) = true := by
    intro h
    obtain ⟨rfl, hQC⟩ := h365 h
    simp only [isLeap, Bool.and_eq_true, decide_eq_true_eq, Bool.or_eq_true, ne_eq]
    omega
  clear h365
  by_cases hfeb : mp = 11
  · -- February: the 29th only at the last day of the year
    subst hfeb
    simp [daysIn]
    split_ifs with hl
    · omega
    · have := mt hleap hl
      omega
  · -- one case per other month, from March (`mp = 0`) to January (`mp = 10`)
    have : mp = 0 ∨ mp = 1 ∨ mp = 2 ∨ mp = 3 ∨ mp = 4 ∨ mp = 5 ∨ mp = 6 ∨ mp = 7 ∨ mp = 8 ∨
        mp = 9 ∨ mp = 10 := by omega
    rcases this with rfl | rfl | rfl | rfl | rfl | rfl | rfl | rfl | rfl | rfl | rfl <;>
      simp [daysIn] <;> omega

theorem civil_year_bounds {z era doe yoe doy mp : Int} (hera : (z + 719468) / 146097 = era)
    (hdoe : z + 719468 - era * 146097 = doe)
    (hyoe : (doe - doe / 1460 + doe / 36524 - doe / 146096) / 365 = yoe)
    (hdoy : doe - (365 * yoe + yoe / 4 - yoe / 100) = doy) (hmp : (5 * doy + 2) / 153 = mp)
    (h0 : -719162 ≤ z) (h1 : z ≤ 2932896) :
    1 ≤ yoe + era * 400 + (if (if mp < 10 then mp + 3 else mp - 9) ≤ 2 then 1 else 0) ∧
      yoe + era * 400 + (if (if mp < 10 then mp + 3 else mp - 9) ≤ 2 then 1 else 0) ≤ 9999 := by
  obtain ⟨hy0, hy1, hy2, hy3⟩ := yoe_bounds (by omega) (by omega) hyoe.symm
  split_ifs <;> omega

theorem civilFromDays_day_le (z : Int) :
    (civilFromDays z).2.2 ≤ daysIn (civilFromDays z).1 (civilFromDays z).2.1 :=
  civil_day_le rfl rfl rfl rfl rfl

theorem civilFromDays_year_bounds {z : Int} (h0 : -719162 ≤ z) (h1 : z ≤ 2932896) :
    1 ≤ (civilFromDays z).1 ∧ (civilFromDays z).1 ≤ 9999 :=
  civil_year_bounds rfl rfl rfl rfl rfl h0 h1

theorem takeWhile_isDigit_append_Z {P : List Char} (hP : ∀ c ∈ P, c.isDigit) :
    (P ++ ['Z']).takeWhile Char.isDigit = P := by
  rw [List.takeWhile_append_of_pos hP, show ['Z'].takeWhile Char.isDigit = [] from rfl,
    List.append_nil]

theorem parseRFC3339_utc {A B C D E F : List Char} {y mo d h mi se : Nat}
    (hA : A.length = 4) (hB : B.length = 2) (hC : C.length = 2) (hD : D.length = 2)
    (hE : E.length = 2) (hF : F.length = 2) (dA : digits? A = some y) (dB : digits? B = some mo)
    (dC : digits? C = some d) (dD : digits? D = some h) (dE : digits? E = some mi)
    (dF : digits? F = some se)
    (hg : 1 ≤ mo ∧ mo ≤ 12 ∧ 1 ≤ d ∧ d ≤ daysIn y mo ∧ h < 24 ∧ mi < 60 ∧ se < 60)
    {frac : List Char} {ns : Nat} (hfrac : frac = [] ∧ ns = 0 ∨ ∃ P, frac = '.' :: P ∧
      P.length ≤ 9 ∧ (∀ c ∈ P, c.isDigit) ∧
        digits? (P ++ List.replicate (9 - P.length) '0') = some ns) :
    parseRFC3339 ⟨A ++ '-' :: B ++ '-' :: C ++ 'T' :: D ++ ':' :: E ++ ':' :: F ++ frac ++ ['Z']⟩ =
      some ((daysFromCivil y mo d * 86400 + h * 3600 + mi * 60 + se) * 1000000000 + ns) := by
  obtain ⟨a1, a2, a3, a4, rfl⟩ : ∃ a1 a2 a3 a4, A = [a1, a2, a3, a4] := by
    match A, hA with | [a1, a2, a3, a4], _ => exact ⟨a1, a2, a3, a4, rfl⟩
  obtain ⟨b1, b2, rfl⟩ := List.length_eq_two.mp hB
  obtain ⟨c1, c2, rfl⟩ := List.length_eq_two.mp hC
  obtain ⟨d1, d2, rfl⟩ := List.length_eq_two.mp hD
  obtain ⟨e1, e2, rfl⟩ := List.length_eq_two.mp hE
  obtain ⟨f1, f2, rfl⟩ := List.length_eq_two.mp hF
  simp only [parseRFC3339, String.toList, List.cons_append, List.nil_append]
  dsimp only [List.take, List.drop, List.get?, List.length_cons]
  rw [dA, dB, dC, dD, dE, dF]
  dsimp only [guard, Option.bind_eq_bind, Option.some_bind]
  rw [if_pos hg, if_pos (by simp)]
  simp only [Option.pure_def, Option.some_bind, List.append_eq, List.nil_append]
  rcases hfrac with ⟨rfl, rfl⟩ | ⟨P, rfl, hl, hP, hv⟩
  · simp only [List.nil_append, zero_mul, sub_zero]
    rfl
  · simp only [List.cons_append, takeWhile_isDigit_append_Z hP, List.take_of_length_le hl, hv,
      List.drop_left, Option.some_bind, zero_mul, sub_zero]

theorem pad_length_of_lt {w n : Nat} (hw : 0 < w) (h : n < 10 ^ w) : (pad w n).data.length = w :=
  pad_length (Nat.repr_length n w hw h)

theorem protojson_frac {n : Nat} (hn : n < 1000000000) :
    (if n = 0 then "" else if n % 1000000 = 0 then "." ++ pad 3 (n / 1000000)
      else if n % 1000 = 0 then "." ++ pad 6 (n / 1000) else "." ++ pad 9 n).data = [] ∧ n = 0 ∨
    ∃ P, (if n = 0 then "" else if n % 1000000 = 0 then "." ++ pad 3 (n / 1000000)
        else if n % 1000 = 0 then "." ++ pad 6 (n / 1000) else "." ++ pad 9 n).data = '.' :: P ∧
      P.length ≤ 9 ∧ (∀ c ∈ P, c.isDigit) ∧
        digits? (P ++ List.replicate (9 - P.length) '0') = some n := by
  have block (w v k : Nat) (hw : 0 < w) (hv : v < 10 ^ w) (hk : w + k = 9) (he : v * 10 ^ k = n) :
      ∃ P, ("." ++ pad w v).data = '.' :: P ∧ P.length ≤ 9 ∧ (∀ c ∈ P, c.isDigit) ∧
        digits? (P ++ List.replicate (9 - P.length) '0') = some n := by
    refine ⟨(pad w v).data, rfl, by rw [pad_length_of_lt hw hv]; omega, pad_isDigit w v, ?_⟩
    rw [pad_length_of_lt hw hv, show 9 - w = k by omega, digits?_append_zeros (digits?_pad w v),
      he]
  split_ifs with h0 h6 h3
  · exact .inl ⟨rfl, h0⟩
  · exact .inr (block 3 (n / 1000000) 6 (by decide) (by norm_num; omega) rfl (by norm_num; omega))
  · exact .inr (block 6 (n / 1000) 3 (by decide) (by norm_num; omega) rfl (by norm_num; omega))
  · exact .inr (block 9 n 0 (by decide) (by norm_num; omega) rfl (by norm_num))

theorem dateTime_data (c : Civil) (sep : Char) : (c.dateTime ⟨[sep]⟩).data =
    (padYear c.year).data ++ '-' :: ((pad 2 c.month).data ++ '-' :: ((pad 2 c.day).data ++
      sep :: ((pad 2 c.hour).data ++ ':' :: ((pad 2 c.minute).data ++ ':' ::
        (pad 2 c.second).data)))) := by
  simp only [Civil.dateTime, String.data_append, List.append_assoc]
  rfl

theorem civil_eq (t : Int) : Time.civil t =
    ⟨(civilFromDays (t / 1000000000 / 86400)).1, (civilFromDays (t / 1000000000 / 86400)).2.1,
      (civilFromDays (t / 1000000000 / 86400)).2.2, (t / 1000000000 % 86400).toNat / 3600,
      (t / 1000000000 % 86400).toNat % 3600 / 60, (t / 1000000000 % 86400).toNat % 60,
      (t % 1000000000).toNat⟩ := rfl

theorem parseRFC3339_civil {t : Int} (h0 : -62135596800 ≤ t / 1000000000)
    (h1 : t / 1000000000 ≤ 253402300799) {frac : String} {ns : Nat}
    (hfrac : frac.data = [] ∧ ns = 0 ∨ ∃ P, frac.data = '.' :: P ∧ P.length ≤ 9 ∧
      (∀ c ∈ P, c.isDigit) ∧ digits? (P ++ List.replicate (9 - P.length) '0') = some ns) :
    parseRFC3339 ((Time.civil t).dateTime "T" ++ frac ++ "Z") =
      some (t / 1000000000 * 1000000000 + ns) := by
  obtain ⟨hm1, hm12, hd1, hd31, hrt⟩ := civilFromDays_spec (t / 1000000000 / 86400)
  have hdl := civilFromDays_day_le (t / 1000000000 / 86400)
  obtain ⟨hy1, hy2⟩ := civilFromDays_year_bounds (z := t / 1000000000 / 86400) (by omega)
    (by omega)
  rw [civil_eq]
  generalize civilFromDays (t / 1000000000 / 86400) = cd at *
  obtain ⟨y, m, d⟩ := cd
  dsimp only at *
  have hpy : padYear y = pad 4 y.toNat := if_neg (by omega)
  have hstr : (Civil.dateTime ⟨y, m, d, (t / 1000000000 % 86400).toNat / 3600,
      (t / 1000000000 % 86400).toNat % 3600 / 60, (t / 1000000000 % 86400).toNat % 60,
      (t % 1000000000).toNat⟩ "T") ++ frac ++ "Z" = ⟨(pad 4 y.toNat).data ++ '-' ::
      (pad 2 m).data ++ '-' :: (pad 2 d).data ++ 'T' ::
      (pad 2 ((t / 1000000000 % 86400).toNat / 3600)).data ++ ':' ::
      (pad 2 ((t / 1000000000 % 86400).toNat % 3600 / 60)).data ++ ':' ::
      (pad 2 ((t / 1000000000 % 86400).toNat % 60)).data ++ frac.data ++ ['Z']⟩ := by
    apply String.ext
    rw [String.data_append, String.data_append, show "T" = ⟨['T']⟩ from rfl, dateTime_data]
    simp only [hpy, List.append_assoc, List.cons_append]
  have hr : (t / 1000000000 % 86400).toNat < 86400 := by omega
  rw [hstr, parseRFC3339_utc (pad_length_of_lt (by decide) (by norm_num; omega))
    (pad_length_of_lt (by decide) (by norm_num; omega))
    (pad_length_of_lt (by decide) (by norm_num; omega))
    (pad_length_of_lt (by decide) (by norm_num; omega))
    (pad_length_of_lt (by decide) (by norm_num; omega))
    (pad_length_of_lt (by decide) (by norm_num; omega))
    (digits?_pad _ _) (digits?_pad _ _) (digits?_pad _ _) (digits?_pad _ _) (digits?_pad _ _)
    (digits?_pad _ _)
    ⟨hm1, hm12, hd1, by rwa [Int.toNat_of_nonneg (by omega)], by omega, by omega, by omega⟩ hfrac,
    Int.toNat_of_nonneg (by omega : 0 ≤ y), hrt]
  congr 1
  omega

theorem parseRFC3339_toJson? {ts : Timestamp} {s : String} (h : ts.toJson? = some s) :
    parseRFC3339 s = some ts.asTime := by
  unfold Timestamp.toJson? at h
  split at h
  · cases h
  rename_i hr
  simp only [not_or, not_lt, Option.some.injEq] at hr h
  obtain ⟨hs0, hs1, hn0, hn1⟩ := hr
  subst h
  -- the instant as integer arithmetic: its second, and the nanoseconds past it
  have hb (x : Int) (hx : x = ts.seconds * 1000000000 + ts.nanos) :
      -62135596800 ≤ x / 1000000000 ∧ x / 1000000000 ≤ 253402300799 ∧
        x / 1000000000 * 1000000000 + ts.nanos.toNat = x := by
    subst hx; omega
  obtain ⟨hb0, hb1, hb2⟩ := hb ts.asTime rfl
  rw [parseRFC3339_civil hb0 hb1 (protojson_frac (by omega)), hb2]

theorem toJson?_bind_parseRFC3339 (ts : Timestamp) :
    ts.toJson?.bind parseRFC3339 =
      if ts.seconds < -62135596800 ∨ 253402300799 < ts.seconds ∨ ts.nanos < 0 ∨
        999999999 < ts.nanos then none else some ts.asTime := by
  split
  · next hr => simp only [Timestamp.toJson?, if_pos hr, Option.none_bind]
  · next hr =>
    obtain ⟨s, hs⟩ : ∃ s, ts.toJson? = some s := ⟨_, by rw [Timestamp.toJson?, if_neg hr]⟩
    rw [hs, Option.some_bind, parseRFC3339_toJson? hs]

end Santamon.Events
