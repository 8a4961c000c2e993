import StarSurvey.Network.Url
import StarSurvey.Proofs.Lines
import StarSurvey.Proofs.Partial

/-!
# The text of a URL is a line

Whatever an address is made of, ends of line are passed over, refused or escaped when it is read as a
URL.

- **Domains** (`Domain.isLine_of_ofText?`): a name in ASCII is made of characters that a domain may
  hold, and of Punycode.
- **Escapes** (`Url.isLine_escape`).
- **URLs** (`Url.isLine_text`).
-/

namespace StarSurvey.Network

open Text

/-! ## Domains -/

namespace Domain

theorem ofNat_ne {n : ℕ} (h : n ≠ 10) : Char.ofNat n ≠ '\n' := by
  by_cases hn : n.isValidChar
  · rw [Char.ofNat, dif_pos hn]
    intro heq
    exact h (congrArg Char.toNat heq)
  · rw [Char.ofNat, dif_neg hn]
    decide

theorem digit_ne (d : ℕ) : digit d ≠ '\n' := by
  unfold digit
  split <;> exact ofNat_ne (by omega)

theorem not_mem_encodeDelta (bias k q : ℕ) : '\n' ∉ encodeDelta bias k q := by
  induction k, q using encodeDelta.induct bias with
  | case1 k q t hq =>
    rw [encodeDelta, if_pos hq, List.mem_singleton]
    exact (digit_ne q).symm
  | case2 k q t hq ih =>
    rw [encodeDelta, if_neg hq, List.mem_cons, not_or]
    exact ⟨(digit_ne _).symm, ih⟩

theorem not_mem_written_pass (n basic : ℕ) {e : Encoding} (h : '\n' ∉ e.written) (c : Char) :
    '\n' ∉ (e.pass n basic c).written := by
  unfold Encoding.pass
  split_ifs
  · exact h
  · rw [List.mem_append, not_or]
    exact ⟨h, not_mem_encodeDelta _ _ _⟩
  · exact h

theorem not_mem_written_foldl (n basic : ℕ) (cs : List Char) {e : Encoding} (h : '\n' ∉ e.written) :
    '\n' ∉ (cs.foldl (Encoding.pass n basic) e).written := by
  induction cs generalizing e with
  | nil => exact h
  | cons c cs ih => exact ih (not_mem_written_pass n basic h c)

theorem not_mem_written_encodeAbove (label : List Char) (basic : ℕ) (ns : List ℕ) (last : ℕ)
    {e : Encoding} (h : '\n' ∉ e.written) :
    '\n' ∉ (encodeAbove label basic ns last e).written := by
  induction ns generalizing last e with
  | nil => exact h
  | cons n ns ih =>
    have hplaced := not_mem_written_foldl n basic label
      (e := { e with delta := e.delta + (n - last) * (e.placed + 1) }) h
    exact ih (n + 1) hplaced

/-- Punycode holds the characters of the label that are ASCII, dashes and digits. -/
theorem not_mem_encode {label : List Char} (h : '\n' ∉ label) : '\n' ∉ encode label := by
  unfold encode
  dsimp only
  rw [List.mem_append, not_or]
  refine ⟨?_, not_mem_written_encodeAbove _ _ _ _ List.not_mem_nil⟩
  split
  · exact List.not_mem_nil
  · rw [List.mem_append, not_or]
    exact ⟨fun hmem => h (List.mem_filter.mp hmem).1, by decide⟩

theorem not_mem_of_labelOf? {code label : List Char} (h : labelOf? code = some label) :
    '\n' ∉ label := by
  unfold labelOf? at h
  split at h
  · cases h
  · obtain ⟨decoded, -, h⟩ := Option.bind_eq_some_iff.mp h
    split_ifs at h with _ hall
    cases h
    intro hmem
    have hnewline := List.all_eq_true.mp hall _ hmem
    exact absurd (Bool.and_eq_true_iff.mp hnewline).2 (by decide)

theorem not_mem_of_label? {cs label : List Char} (h : '\n' ∉ cs) (hl : label? cs = some label) :
    '\n' ∉ label := by
  have hwritten := (Option.filter_eq_some_iff.mp hl).1
  split at hwritten
  · exact not_mem_of_labelOf? hwritten
  · cases hwritten
    exact h

theorem not_mem_sent {label : List Char} (h : '\n' ∉ label) : '\n' ∉ sent label := by
  unfold sent
  split
  · exact h
  · rw [List.mem_append, not_or]
    exact ⟨by decide, not_mem_encode h⟩

/-- A domain name in ASCII is a line. -/
theorem isLine_of_ofText? {s name : String} (h : ofText? s = some name) : IsLine name := by
  unfold ofText? at h
  obtain ⟨parts, -, h⟩ := Option.bind_eq_some_iff.mp h
  generalize compose parts.flatten = cs at h
  dsimp only at h
  split at h
  · cases h
  · rename_i hforbidden
    obtain ⟨labels, hlabels, h⟩ := Option.bind_eq_some_iff.mp h
    split at h
    · cases h
    · cases h
      have hcs : '\n' ∉ cs := fun hmem => hforbidden (List.any_eq_true.mpr ⟨'\n', hmem, rfl⟩)
      have hlabel : ∀ l ∈ labels, '\n' ∉ l :=
        forall_of_mapM hlabels fun part hpart l hl =>
          not_mem_of_label? (fun hmem => hcs (mem_of_mem_splitAt hpart hmem)) hl
      rw [isLine_ofList]
      refine not_mem_intercalate (by decide) fun l hl => ?_
      obtain ⟨label, hmem, rfl⟩ := List.mem_map.mp hl
      exact not_mem_sent (hlabel label hmem)

end Domain

/-! ## Addresses -/

theorem Ipv4.isLine_text (i : Ipv4) : IsLine i.text := by
  refine isLine_intercalate (by decide) fun t ht => ?_
  obtain ⟨b, -, rfl⟩ := List.mem_map.mp ht
  exact isLine_nat _

theorem Ipv6.isLine_groupsText (gs : List UInt16) : IsLine (groupsText gs) := by
  refine isLine_intercalate (by decide) fun t ht => ?_
  obtain ⟨g, -, rfl⟩ := List.mem_map.mp ht
  rw [digits, isLine_ofList]
  exact not_mem_toDigits _ _

theorem Ipv6.isLine_text (i : Ipv6) : IsLine i.text := by
  unfold text
  dsimp only
  split
  · exact isLine_groupsText _
  · rw [isLine_append, isLine_append]
    exact ⟨⟨isLine_groupsText _, by decide⟩, isLine_groupsText _⟩

namespace Url

theorem isLine_host {cs : List Char} {host : Host} (h : host? cs = some host) :
    IsLine host.text := by
  unfold host? at h
  split at h
  · split at h
    · obtain ⟨i, -, rfl⟩ := Option.map_eq_some_iff.mp h
      show IsLine ("[" ++ i.text ++ "]")
      rw [isLine_append, isLine_append]
      exact ⟨⟨by decide, i.isLine_text⟩, by decide⟩
    · cases h
  · obtain ⟨text, -, h⟩ := Option.bind_eq_some_iff.mp h
    obtain ⟨name, hname, h⟩ := Option.bind_eq_some_iff.mp h
    split_ifs at h
    · obtain ⟨i, -, rfl⟩ := Option.map_eq_some_iff.mp h
      exact i.isLine_text
    · cases h
      exact Domain.isLine_of_ofText? hname

/-! ## Escapes -/

theorem not_mem_escapeChar (c : Char) : '\n' ∉ escapeChar c := by
  have hdigit : ∀ n < 16, '\n' ≠ (Nat.digitChar n).toUpper := by decide
  intro hmem
  obtain ⟨b, -, hb⟩ := List.mem_flatMap.mp hmem
  have hlow : b.toNat % 16 < 16 := Nat.mod_lt _ (by decide)
  have hhigh : b.toNat / 16 < 16 := by
    have := b.toNat_lt
    omega
  simp only [List.mem_cons, List.not_mem_nil, or_false] at hb
  rcases hb with hb | hb | hb
  · cases hb
  · exact hdigit _ hhigh hb
  · exact hdigit _ hlow hb

/-- What is escaped is a line: an end of line is no printable character. -/
theorem isLine_escape (special cs : List Char) : IsLine (escape special cs) := by
  rw [escape, isLine_ofList, List.mem_flatMap]
  rintro ⟨c, -, hc⟩
  split at hc
  · exact not_mem_escapeChar c hc
  · rename_i hplain
    rw [List.mem_singleton] at hc
    subst hc
    exact hplain (.inl (by decide))

/-! ## URLs -/

theorem isLine_followDots {done rest : List String} (hdone : ∀ s ∈ done, IsLine s)
    (hrest : ∀ s ∈ rest, IsLine s) : ∀ s ∈ followDots done rest, IsLine s := by
  induction rest generalizing done with
  | nil => exact hdone
  | cons t rest ih =>
    rw [List.forall_mem_cons] at hrest
    have hending : ∀ s ∈ (if rest.isEmpty then [""] else []), IsLine s := by
      intro s hs
      split at hs
      · rw [List.mem_singleton.mp hs]
        decide
      · cases hs
    rw [followDots]
    generalize (if rest.isEmpty then [""] else []) = ending at hending ⊢
    split_ifs
    · have hback : ∀ s ∈ done.dropLast, IsLine s := fun s hs => hdone s ((List.dropLast_subset done) hs)
      exact ih (List.forall_mem_append.mpr ⟨hback, hending⟩) hrest.2
    · exact ih (List.forall_mem_append.mpr ⟨hdone, hending⟩) hrest.2
    · have hname : ∀ s ∈ [t], IsLine s := List.forall_mem_singleton.mpr hrest.1
      exact ih (List.forall_mem_append.mpr ⟨hdone, hname⟩) hrest.2

theorem isLine_pathOf (cs : List Char) : ∀ s ∈ pathOf cs, IsLine s := by
  refine isLine_followDots (fun _ hs => nomatch hs) fun s hs => ?_
  obtain ⟨segment, -, rfl⟩ := List.mem_map.mp hs
  exact isLine_escape _ _

/-- The text of whatever URL an address makes is a line. -/
theorem isLine_text {address : String} {u : Url} (h : ofAddress? address = some u) :
    IsLine u.text := by
  unfold ofAddress? at h
  dsimp only at h
  obtain ⟨host, hhost, h⟩ := Option.bind_eq_some_iff.mp h
  obtain ⟨port, -, h⟩ := Option.bind_eq_some_iff.mp h
  cases h
  have hoption : ∀ (mark : String) (special : List Char) (cs : Option (List Char)), IsLine mark →
      IsLine (((cs.map (escape special)).map (mark ++ ·)).getD "") := by
    intro mark special cs hmark
    cases cs with
    | none => exact (by decide : IsLine "")
    | some cs =>
      show IsLine (mark ++ escape special cs)
      rw [isLine_append]
      exact ⟨hmark, isLine_escape _ _⟩
  have hport : IsLine ((port.map fun p => ":" ++ toString p).getD "") := by
    cases port with
    | none => exact (by decide : IsLine "")
    | some p =>
      show IsLine (":" ++ toString p)
      rw [isLine_append]
      exact ⟨by decide, isLine_nat p⟩
  have hpath : ∀ cs, IsLine ("/".intercalate (pathOf cs)) := fun cs =>
    isLine_intercalate (by decide) (isLine_pathOf cs)
  simp only [text, requestText, isLine_append]
  exact ⟨⟨⟨⟨⟨⟨by decide, isLine_host hhost⟩, hport⟩, by decide⟩, hpath _⟩, hoption _ _ _ (by decide)⟩,
    hoption _ _ _ (by decide)⟩

end Url

end StarSurvey.Network
