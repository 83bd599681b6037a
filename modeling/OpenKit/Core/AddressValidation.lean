import OpenKit.Core.InetAddresses

/-!
# Which strings are validated as IP addresses

An accepted string has ASCII characters only, so that the positions of its bytes are those of its
characters. In all other strings the mixed notation is refused, but a read from behind the terminator or
a loop that stands still may come first.

## Main definitions

* `InetAddressValidator.ValidatesExactly`: addresses are accepted, and nothing else
* `InetAddressValidator.StaysInside`: neither a search nor a cut gets lost in the string

## Main results

* `isIPv6MixedAddress_ofCharacters`: what is accepted in the mixed notation
* `validatesExactly_iff`: when a string is validated exactly
-/

namespace OpenKit

open UTF8String RegularExpression

namespace InetAddressValidator

/-- Addresses are accepted, and nothing else. -/
def ValidatesExactly (ipAddress : UTF8String) : Prop :=
  ∃ accepted, isValidIP ipAddress = .ok accepted ∧ (accepted = true ↔ IsAddress ipAddress.data)

/-- **No fault**: a string of characters has at most one byte more than characters, and any other string has
no colon. -/
def StaysInside (ipAddress : UTF8String) : Prop :=
  (Complete ipAddress.data → ipAddress.data.length ≤ ipAddress.stringLength + 1) ∧
    (¬ Complete ipAddress.data → 58 ∉ ipAddress.data)

variable {cs : List Utf8Character} {b : UInt8} {front back data rest : List UInt8} {n : ℕ}

/-! ## Positions -/

theorem findLastOf_eq_none (h : b ∉ data) : findLastOf b data = none := by
  induction data with
  | nil => rfl
  | cons a data ih =>
    rw [findLastOf, ih (List.not_mem_of_not_mem_cons h)]
    have hne : a ≠ b := by
      rintro rfl
      exact h List.mem_cons_self
    exact if_neg hne

/-- The last byte of its kind. -/
theorem findLastOf_append (h : b ∉ back) : findLastOf b (front ++ b :: back) = some front.length := by
  induction front with
  | nil =>
    rw [List.nil_append, findLastOf, findLastOf_eq_none h]
    exact if_pos rfl
  | cons a front ih => rw [List.cons_append, findLastOf, ih, List.length_cons]

theorem exists_split_last (h : b ∈ data) : ∃ front back, data = front ++ b :: back ∧ b ∉ back := by
  obtain ⟨before, after, hdata, hbefore⟩ := List.eq_append_cons_of_mem (List.mem_reverse.mpr h)
  refine ⟨after.reverse, before.reverse, ?_, fun hmem => hbefore (List.mem_reverse.mp hmem)⟩
  rw [← List.reverse_reverse data, hdata, List.reverse_append, List.reverse_cons, List.append_assoc]
  rfl

/-! ## Strings of ASCII characters -/

/-- Some characters have as many bytes as there are if all their bytes are ASCII characters. -/
theorem length_bytesOf_of_ascii (h : ∀ b ∈ bytesOf cs, b ∈ addressCharacters) :
    (bytesOf cs).length = cs.length := by
  have hwidth : ∀ b ∈ addressCharacters, getByteWidthOfCharacter b = 1 :=
    List.all_iff_forall_prop.mp rfl
  induction cs with
  | nil => rfl
  | cons c cs ih =>
    have hbytes : bytesOf (c :: cs) = c.bytes ++ bytesOf cs := rfl
    rw [hbytes] at h ⊢
    obtain ⟨hc, hcs⟩ := List.forall_mem_append.mp h
    rw [List.length_append, ih hcs, c.length_bytes, hwidth _ (hc _ List.mem_cons_self), List.length_cons,
      Nat.add_comm]

/-- Their first bytes are those of the first characters. -/
theorem bytesOf_take_of_ascii {k : ℕ} (h : ∀ b ∈ bytesOf (cs.take k), b ∈ addressCharacters)
    (hk : k ≤ (bytesOf cs).length) : bytesOf (cs.take k) = (bytesOf cs).take k ∧ k ≤ cs.length := by
  have hlength := length_bytesOf_of_ascii h
  rw [List.length_take] at hlength
  have hle : k ≤ cs.length := by
    by_contra hlt
    rw [List.take_of_length_le (by omega)] at hlength
    omega
  refine ⟨?_, hle⟩
  rw [← take_bytesOf, hlength, Nat.min_eq_left hle]

/-- An address consists of characters. -/
theorem complete_of_characters (h : ∀ b ∈ data, b ∈ addressCharacters) : Complete data := by
  have hascii : ∀ b ∈ addressCharacters, b ≠ 0 ∧ getByteWidthOfCharacter b = 1 :=
    List.all_iff_forall_prop.mp rfl
  induction data with
  | nil => exact ⟨[], rfl⟩
  | cons b data ih =>
    obtain ⟨hb, hdata⟩ := List.forall_mem_cons.mp h
    obtain ⟨hzero, hwidth⟩ := hascii b hb
    obtain ⟨cs, rfl⟩ := ih hdata
    exact ⟨.ofAscii b hzero hwidth :: cs, rfl⟩

/-! ## The mixed notation -/

/-- The part before the four numbers ends with a colon. -/
theorem IsMixedFront.exists_concat (h : IsMixedFront front) :
    (∃ front', front = front' ++ [58]) ∧ ∀ b ∈ front, b ∈ addressCharacters := by
  have hterminated {groups : List (List UInt8)} (hgroups : ∀ g ∈ groups, IsHexGroup g) :
      ∀ b ∈ groups.flatMap fun g => g ++ [58], b ∈ addressCharacters := by
    intro b hb
    obtain ⟨g, hg, hb⟩ := List.mem_flatMap.mp hb
    rcases List.mem_append.mp hb with hb | hb
    · exact List.mem_cons_of_mem _ (List.mem_cons_of_mem _ ((hgroups g hg).2.2 b hb))
    · rw [List.mem_singleton.mp hb]
      exact List.mem_cons_of_mem _ List.mem_cons_self
  rcases h with h | h
  · obtain ⟨groups, hlength, rfl, hgroups⟩ := ipv6MixedNonCompressedRegex_iff.mp h
    refine ⟨?_, hterminated hgroups⟩
    rcases List.eq_nil_or_concat groups with rfl | ⟨groups, g, rfl⟩
    · cases hlength
    · rw [List.concat_eq_append, List.flatMap_append, List.flatMap_singleton, ← List.append_assoc]
      exact ⟨_, rfl⟩
  · obtain ⟨left, right, rfl, hleft, hright⟩ := ipv6MixedCompressedRegex_iff.mp h
    refine ⟨?_, List.forall_mem_append.mpr ⟨mem_addressCharacters_of_hexGroups hleft,
      List.forall_mem_append.mpr ⟨List.all_iff_forall_prop.mp rfl, hterminated hright⟩⟩⟩
    rcases List.eq_nil_or_concat right with rfl | ⟨right, g, rfl⟩
    · exact ⟨[58].intercalate left ++ [58], by rw [List.append_assoc]; rfl⟩
    · rw [List.concat_eq_append, List.flatMap_append, List.flatMap_singleton, ← List.append_assoc,
        ← List.append_assoc, ← List.append_assoc]
      exact ⟨_, rfl⟩

theorem isIPv4_iff (s : UTF8String) : isIPv4Address s = true ↔ IsIPv4 s.data := ipv4Regex_iff

/-- The check of the two parts; two colons alone are a front, too. -/
theorem isIPv6MixedAddress_split {n : ℕ} (hback : 58 ∉ back)
    (hpass : standsStill (front ++ 58 :: back).length (front ++ 58 :: back) = false) :
    ∃ accepted, isIPv6MixedAddress ⟨front ++ 58 :: back, n⟩ = .ok accepted ∧
      (accepted = true ↔
        IsMixedFront ((⟨front ++ 58 :: back, n⟩ : UTF8String).substring 0 (front.length + 1)).data ∧
          IsIPv4 ((⟨front ++ 58 :: back, n⟩ : UTF8String).substring (front.length + 1)
            (front ++ 58 :: back).length).data) := by
  rw [isIPv6MixedAddress, getStringData, findLastOf_append hback]
  dsimp only
  rw [substringFrom, hpass, if_neg Bool.false_ne_true]
  simp only [bind, Except.bind, pure, Except.pure]
  have hcolons : ipv6MixedCompressedRegex.rmatch [58, 58] = true :=
    ipv6MixedCompressedRegex_iff.mpr ⟨[], [], rfl, List.forall_mem_nil _, List.forall_mem_nil _⟩
  generalize (⟨front ++ 58 :: back, n⟩ : UTF8String).substring 0 (front.length + 1) = ipV6Part
  generalize (⟨front ++ 58 :: back, n⟩ : UTF8String).substring (front.length + 1)
    (front ++ 58 :: back).length = ipv4Part
  by_cases hfront : ipV6Part.getStringData = [58, 58]
  · have hdata : ipV6Part.data = [58, 58] := hfront
    rw [if_pos hfront, hdata]
    refine ⟨_, rfl, ?_⟩
    rw [isIPv4_iff]
    exact ⟨fun h => ⟨.inr hcolons, h⟩, And.right⟩
  · rw [if_neg hfront]
    refine ⟨_, rfl, ?_⟩
    rw [Bool.and_eq_true, Bool.or_eq_true, isIPv4_iff]
    exact and_comm

/-- **The cut** at the last colon: both parts are right, or one of them is refused. -/
theorem mixed_cut_iff {cs : List Utf8Character} (hbytes : bytesOf cs = front ++ 58 :: back) :
    (IsMixedFront ((ofCharacters cs).substring 0 (front.length + 1)).data ∧
        IsIPv4 ((ofCharacters cs).substring (front.length + 1) (bytesOf cs).length).data) ↔
      IsMixedFront (front ++ [58]) ∧ IsIPv4 back := by
  have hlength : (bytesOf cs).length = front.length + 1 + back.length := by
    rw [hbytes, List.length_append, List.length_cons]
    omega
  have hne : cs ≠ [] := by
    rintro rfl
    exact absurd hbytes (by simp)
  have hpos : 0 < cs.length := List.length_pos_iff.mpr hne
  have htake : (bytesOf cs).take (front.length + 1) = front ++ [58] := by
    have hsplit : front ++ 58 :: back = (front ++ [58]) ++ back := by
      rw [List.append_assoc]
      rfl
    have hlength' : front.length + 1 = (front ++ [58]).length := by rw [List.length_append, List.length_singleton]
    rw [hbytes, hsplit, hlength', List.take_left]
  have hdrop : (bytesOf cs).drop (front.length + 1) = back := by
    rw [hbytes, ← List.drop_drop, List.drop_left]
    rfl
  have hfirst : ((ofCharacters cs).substring 0 (front.length + 1)).data =
      bytesOf (cs.take (front.length + 1)) := by
    rw [substring_of_lt hpos]
    rfl
  rw [hfirst]
  -- the first part is right where it has ASCII characters only
  have hcut (hascii : ∀ b ∈ bytesOf (cs.take (front.length + 1)), b ∈ addressCharacters) :
      bytesOf (cs.take (front.length + 1)) = front ++ [58] ∧
        (IsIPv4 ((ofCharacters cs).substring (front.length + 1) (bytesOf cs).length).data ↔
          IsIPv4 back) := by
    obtain ⟨htaken, hle⟩ := bytesOf_take_of_ascii hascii (by omega)
    refine ⟨htaken.trans htake, ?_⟩
    have hrest : bytesOf (cs.drop (front.length + 1)) = back := by
      rw [← drop_bytesOf, htaken, htake, List.length_append, List.length_singleton, hdrop]
    rcases hle.lt_or_eq with hlt | hlast
    · rw [substring_of_lt hlt, data_ofCharacters, slice]
      have hall : (cs.drop (front.length + 1)).length ≤ (bytesOf cs).length := by
        have hchars := length_le_length_bytesOf cs
        rw [List.length_drop]
        omega
      rw [List.take_of_length_le hall, hrest]
    · -- the colon is the last character
      have hback : back = [] := by
        rw [← hrest, ← hlast.symm, List.drop_length]
        rfl
      have hwhole : ((ofCharacters cs).substring (front.length + 1) (bytesOf cs).length).data =
          bytesOf cs := by
        rw [substring_of_length_le hlast.symm.le (by omega) (by omega) hne]
      rw [hwhole, hback]
      refine iff_of_false (fun h => h.spec.2.2.2.1 ?_) fun h => h.spec.1 rfl
      rw [hbytes]
      exact List.mem_append_right _ List.mem_cons_self
  constructor
  · rintro ⟨hfront, hlast⟩
    obtain ⟨hsame, hiff⟩ := hcut hfront.exists_concat.2
    exact ⟨hsame ▸ hfront, hiff.mp hlast⟩
  · rintro ⟨hfront, hlast⟩
    -- all bytes are ASCII characters then, and so are those of the first ones
    have hall : ∀ b ∈ bytesOf cs, b ∈ addressCharacters := by
      rw [hbytes]
      have hcolon := hfront.exists_concat.2
      refine List.forall_mem_append.mpr ⟨fun b hb => hcolon b (List.mem_append_left _ hb), ?_⟩
      exact List.forall_mem_cons.mpr ⟨List.mem_cons_of_mem _ List.mem_cons_self, hlast.spec.2.2.2.2⟩
    obtain ⟨hsame, hiff⟩ := hcut fun b hb => by
      rw [← take_bytesOf] at hb
      exact hall b (List.mem_of_mem_take hb)
    exact ⟨hsame ▸ hfront, hiff.mpr hlast⟩

/-- **Mixed addresses** of complete characters. -/
theorem isIPv6MixedAddress_ofCharacters (cs : List Utf8Character) :
    ∃ accepted, isIPv6MixedAddress (ofCharacters cs) = .ok accepted ∧
      (accepted = true ↔ IsMixed (bytesOf cs)) := by
  by_cases hcolon : 58 ∈ bytesOf cs
  · obtain ⟨front, back, hbytes, hback⟩ := exists_split_last hcolon
    have hpass := standsStill_bytesOf cs (bytesOf cs).length
    rw [hbytes] at hpass
    obtain ⟨accepted, hok, haccepted⟩ := isIPv6MixedAddress_split (n := cs.length) hback hpass
    have hsame : (⟨front ++ 58 :: back, cs.length⟩ : UTF8String) = ofCharacters cs := by
      rw [ofCharacters, ← hbytes]
    rw [hsame] at hok haccepted
    rw [← hbytes] at haccepted
    refine ⟨accepted, hok, haccepted.trans ((mixed_cut_iff hbytes).trans ?_)⟩
    constructor
    · rintro ⟨hfront, hlast⟩
      refine ⟨front ++ [58], back, ?_, hfront, hlast⟩
      rw [hbytes, List.append_assoc]
      rfl
    · -- the last colon is that before the four numbers
      rintro ⟨front', last, hdata, hfront, hlast⟩
      obtain ⟨⟨front', rfl⟩, -⟩ := hfront.exists_concat
      rw [hbytes, List.append_assoc] at hdata
      have hposition : findLastOf 58 (front ++ 58 :: back) = some front.length := findLastOf_append hback
      have hposition' : findLastOf 58 (front' ++ ([58] ++ last)) = some front'.length :=
        findLastOf_append hlast.spec.2.2.2.1
      rw [hdata, hposition'] at hposition
      obtain ⟨rfl, htail⟩ := List.append_inj hdata (Option.some.inj hposition).symm
      obtain ⟨-, rfl⟩ := List.cons.inj htail
      exact ⟨hfront, hlast⟩
  · refine ⟨false, ?_, iff_of_false Bool.false_ne_true ?_⟩
    · rw [isIPv6MixedAddress, getStringData, data_ofCharacters, findLastOf_eq_none hcolon]
    · rintro ⟨front, last, hdata, hfront, -⟩
      obtain ⟨⟨front', rfl⟩, -⟩ := hfront.exists_concat
      refine hcolon ?_
      rw [hdata]
      exact List.mem_append_left _ (List.mem_append_right _ (List.mem_singleton.mpr rfl))

/-! ## The whole check -/

variable {s : UTF8String} {accepted : Bool}

/-- What is accepted is accepted before a percent sign is searched. -/
theorem isValidIP_of_accepted (hmixed : isIPv6MixedAddress s = .ok accepted)
    (hiff : accepted = true ↔ IsMixed s.data) (h : IsAccepted s.data) : isValidIP s = .ok true := by
  rw [isValidIP]
  by_cases hipv4 : isIPv4Address s = true
  · exact if_pos hipv4
  rw [if_neg hipv4, isIPv6Address]
  by_cases hstd : isIPv6StdAddress s = true
  · exact if_pos hstd
  rw [if_neg hstd]
  by_cases hhex : isIPv6HexCompressedAddress s = true
  · exact if_pos hhex
  rw [if_neg hhex, hmixed]
  rcases h with h | h | h | h
  · exact absurd ((isIPv4_iff s).mpr h) hipv4
  · exact absurd h hstd
  · exact absurd h hhex
  · rw [hiff.mpr h]
    rfl

/-- Of a string that is not accepted the mixed notation decides first. -/
theorem isValidIP_of_not_accepted (h : ¬ IsAccepted s.data) :
    isValidIP s = (isIPv6MixedAddress s).bind fun isMixed =>
      if isMixed then .ok true else isLinkLocalIPv6WithZoneIndex s := by
  have hipv4 : ¬ isIPv4Address s = true := fun hipv4 => h (.inl ((isIPv4_iff s).mp hipv4))
  have hstd : ¬ isIPv6StdAddress s = true := fun hstd => h (.inr (.inl hstd))
  have hhex : ¬ isIPv6HexCompressedAddress s = true := fun hhex => h (.inr (.inr (.inl hhex)))
  rw [isValidIP, if_neg hipv4, isIPv6Address, if_neg hstd, if_neg hhex]
  rfl

/-- Without a percent sign there is no zone index. -/
theorem isLinkLocal_of_none (h : s.getIndexOf [37] 5 = .ok none) :
    isLinkLocalIPv6WithZoneIndex s = .ok false := by
  rw [isLinkLocalIPv6WithZoneIndex, h]
  rfl

theorem isLinkLocal_of_error {fault : ReadFault} (h : s.getIndexOf [37] 5 = .error fault) :
    isLinkLocalIPv6WithZoneIndex s = .error .readPastEnd := by
  rw [isLinkLocalIPv6WithZoneIndex, h]
  rfl

/-- **A string of characters** that is not accepted is refused, or its percent sign is searched too far. -/
theorem isValidIP_ofCharacters (hpercent : 37 ∉ bytesOf cs) (h : ¬ IsAccepted (bytesOf cs)) :
    isValidIP (ofCharacters cs) =
      if (bytesOf cs).length ≤ cs.length + 1 then .ok false else .error .readPastEnd := by
  obtain ⟨accepted, hmixed, hiff⟩ := isIPv6MixedAddress_ofCharacters cs
  have hrefused : accepted = false :=
    Bool.not_eq_true _ ▸ fun hpass => h (.inr (.inr (.inr (hiff.mp hpass))))
  rw [isValidIP_of_not_accepted h, hmixed, hrefused]
  have hsign : Utf8Character.ofAscii 37 (by decide) (by decide) ∉ cs := fun hmem =>
    hpercent ((mem_bytesOf_ascii _ _).mpr hmem)
  have hsearch := @getIndexOf_complete _ _ 5 (by decide)
    fun j _ hj => hsign (List.mem_of_getElem? hj)
  by_cases hlength : (bytesOf cs).length ≤ cs.length + 1
  · rw [if_pos hlength] at hsearch ⊢
    exact isLinkLocal_of_none hsearch
  · rw [if_neg hlength] at hsearch ⊢
    exact isLinkLocal_of_error hsearch

/-- **A string with a byte that belongs to no character** is refused unless it has a colon. -/
theorem isValidIP_broken (hb : getByteWidthOfCharacter b = 0)
    (hpercent : 37 ∉ bytesOf cs ++ b :: rest) :
    isValidIP ⟨bytesOf cs ++ b :: rest, n⟩ =
      if 58 ∈ bytesOf cs ++ b :: rest then .error .standsStill else .ok false := by
  have haccepted : ¬ IsAccepted (bytesOf cs ++ b :: rest) := fun h =>
    not_complete_of_width hb (complete_of_characters h.characters)
  rw [isValidIP_of_not_accepted haccepted, isIPv6MixedAddress, getStringData]
  by_cases hcolon : 58 ∈ bytesOf cs ++ b :: rest
  · obtain ⟨front, back, hdata, hback⟩ := exists_split_last hcolon
    have hposition : findLastOf 58 (front ++ 58 :: back) = some front.length := findLastOf_append hback
    rw [← hdata] at hposition
    have hlong : cs.length < (bytesOf cs ++ b :: rest).length := by
      have hle := length_le_length_bytesOf cs
      rw [List.length_append, List.length_cons]
      omega
    rw [if_pos hcolon, hposition]
    dsimp only
    rw [substringFrom, standsStill_broken hb hlong, if_pos rfl]
    rfl
  · have hsign : Utf8Character.ofAscii 37 (by decide) (by decide) ∉ cs := fun hmem =>
      hpercent (List.mem_append_left _ ((mem_bytesOf_ascii _ _).mpr hmem))
    rw [if_neg hcolon, findLastOf_eq_none hcolon]
    exact isLinkLocal_of_none (getIndexOf_broken (by decide) hb
      fun j _ hj => hsign (List.mem_of_getElem? hj))

/-- **Exactly addresses are accepted** unless too many groups are left out, or a fault comes first. -/
theorem validatesExactly_iff {stringData : List UInt8} (hpercent : 37 ∉ (validateString stringData).data) :
    ValidatesExactly (validateString stringData) ↔
      ¬ HasTooManyGroups (validateString stringData).data ∧ StaysInside (validateString stringData) := by
  rcases validateString_cases stringData with ⟨cs, hstring⟩ | ⟨cs, b, rest, n, hstring, hb⟩
  · rw [hstring, data_ofCharacters] at hpercent ⊢
    have hstays : StaysInside (ofCharacters cs) ↔ (bytesOf cs).length ≤ cs.length + 1 :=
      ⟨fun h => h.1 (complete_bytesOf cs), fun h => ⟨fun _ => h, fun hne => absurd (complete_bytesOf cs) hne⟩⟩
    rw [hstays, ValidatesExactly, data_ofCharacters]
    by_cases h : IsAccepted (bytesOf cs)
    · have hlength := length_bytesOf_of_ascii h.characters
      obtain ⟨_, hmixed, hiff⟩ := isIPv6MixedAddress_ofCharacters cs
      rw [isValidIP_of_accepted hmixed hiff h]
      constructor
      · rintro ⟨accepted, hok, haccepted⟩
        exact ⟨(haccepted.mp (Except.ok.inj hok).symm).not_hasTooManyGroups, by omega⟩
      · rintro ⟨hfew, -⟩
        exact ⟨true, rfl, iff_of_true rfl ((isAccepted_iff.mp h).resolve_right hfew)⟩
    · have haddress : ¬ IsAddress (bytesOf cs) := fun haddress => h (isAccepted_iff.mpr (.inl haddress))
      have hfew : ¬ HasTooManyGroups (bytesOf cs) := fun hmany => h (isAccepted_iff.mpr (.inr hmany))
      rw [isValidIP_ofCharacters hpercent h]
      by_cases hlength : (bytesOf cs).length ≤ cs.length + 1
      · rw [if_pos hlength]
        exact iff_of_true ⟨false, rfl, iff_of_false Bool.false_ne_true haddress⟩ ⟨hfew, hlength⟩
      · rw [if_neg hlength]
        refine iff_of_false ?_ fun hall => hlength hall.2
        rintro ⟨accepted, hok, -⟩
        cases hok
  · rw [hstring] at hpercent ⊢
    have hbroken : ¬ Complete (bytesOf cs ++ b :: rest) := not_complete_of_width hb
    have haccepted : ¬ IsAccepted (bytesOf cs ++ b :: rest) := fun h =>
      hbroken (complete_of_characters h.characters)
    rw [ValidatesExactly, isValidIP_broken hb hpercent]
    by_cases hcolon : 58 ∈ bytesOf cs ++ b :: rest
    · rw [if_pos hcolon]
      refine iff_of_false ?_ fun h => h.2.2 hbroken hcolon
      rintro ⟨accepted, hok, -⟩
      cases hok
    · rw [if_neg hcolon]
      refine iff_of_true ⟨false, rfl, iff_of_false Bool.false_ne_true fun haddress => ?_⟩
        ⟨fun hmany => ?_, fun hcomplete => absurd hcomplete hbroken, fun _ => hcolon⟩
      · exact haccepted (isAccepted_iff.mpr (.inl haddress))
      · exact haccepted (isAccepted_iff.mpr (.inr hmany))

/-- The address of the machine itself. -/
theorem validatesExactly_loopback : 37 ∉ (validateString [58, 58, 49]).data ∧
    ValidatesExactly (validateString [58, 58, 49]) := by
  have hdata : (validateString [58, 58, 49]).data = [58, 58, 49] := by decide
  have hpercent : 37 ∉ (validateString [58, 58, 49]).data := by decide
  have hone : IsHexGroups [49] 1 := ⟨[[49]], rfl, rfl, List.forall_mem_singleton.mpr
    ⟨by decide, by decide, List.all_iff_forall_prop.mp rfl⟩⟩
  have haddress : IsAddress [58, 58, 49] :=
    .inr (.inr ⟨1, by decide, [], [49], 0, 1, ⟨[], rfl, rfl, List.forall_mem_nil _⟩, .inl hone, rfl, rfl⟩)
  refine ⟨hpercent, (validatesExactly_iff hpercent).mpr ⟨?_, ?_, fun hbroken => absurd ?_ hbroken⟩⟩
  · rw [hdata]
    exact haddress.not_hasTooManyGroups
  · intro
    decide
  · rw [hdata]
    exact complete_of_characters (IsAccepted.characters (isAccepted_iff.mpr (.inl haddress)))

/-- Two colons behind eight groups. -/
theorem not_validatesExactly_nothing_left_out :
    37 ∉ (validateString
      [49, 58, 49, 58, 49, 58, 49, 58, 49, 58, 49, 58, 49, 58, 49, 58, 58]).data ∧
      ¬ ValidatesExactly (validateString
        [49, 58, 49, 58, 49, 58, 49, 58, 49, 58, 49, 58, 49, 58, 49, 58, 58]) := by
  have hok : isValidIP (validateString
      [49, 58, 49, 58, 49, 58, 49, 58, 49, 58, 49, 58, 49, 58, 49, 58, 58]) = .ok true := by decide
  have hdata : (validateString
      [49, 58, 49, 58, 49, 58, 49, 58, 49, 58, 49, 58, 49, 58, 49, 58, 58]).data =
      [49, 58, 49, 58, 49, 58, 49, 58, 49, 58, 49, 58, 49, 58, 49, 58, 58] := by decide
  have hone : IsHexGroup [49] := ⟨by decide, by decide, List.all_iff_forall_prop.mp rfl⟩
  refine ⟨by decide, ?_⟩
  rintro ⟨accepted, haccepted, hiff⟩
  rw [hok] at haccepted
  rw [hdata, ← Except.ok.inj haccepted] at hiff
  refine (hiff.mp rfl).not_hasTooManyGroups ⟨8, by decide, _, [], 8, 0,
    ⟨List.replicate 8 [49], rfl, rfl, fun g hg => ?_⟩, .inl ⟨[], rfl, rfl, List.forall_mem_nil _⟩, rfl, rfl⟩
  rw [List.eq_of_mem_replicate hg]
  exact hone

end InetAddressValidator

end OpenKit
