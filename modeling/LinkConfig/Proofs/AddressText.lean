import LinkConfig.Address.Text
import LinkConfig.Proofs.Numerals
import Mathlib.Algebra.Group.Nat.Defs

/-! # Addresses read back

Reading the text of an address gives the address, so that no two addresses of a family are written
alike. For the colon notation the double colon is found again where it was written, and the zeros
that it stands for are counted from the groups that remain.
-/
namespace LinkConfig
variable {F : Family}

namespace Text
variable {α β : Type} {x : α} {xs : List α}

theorem mapM_map_eq_some {f : α → β} {g : β → Option α} (h : ∀ x ∈ xs, g (f x) = some x) :
    (xs.map f).mapM g = some xs := by
  induction xs with
  | nil => rfl
  | cons x xs ih =>
    rw [List.forall_mem_cons] at h
    rw [List.map_cons, List.mapM_cons, h.1, ih h.2]
    rfl

theorem mapM_eq_none_of_mem {g : α → Option β} (hx : x ∈ xs) (h : g x = none) :
    xs.mapM g = none := by
  induction xs with
  | nil => cases hx
  | cons y ys ih =>
    rw [List.mapM_cons]
    obtain rfl | hys := List.mem_cons.mp hx
    · rw [h]; rfl
    · cases hy : g y with
      | none => rfl
      | some b => rw [ih hys]; rfl

theorem exists_mem_of_mem_intercalate {c sep : Char} {ps : List (List Char)}
    (hc : c ∈ [sep].intercalate ps) (hne : c ≠ sep) : ∃ p ∈ ps, c ∈ p := by
  induction ps with
  | nil => cases hc
  | cons p ps ih =>
    cases ps with
    | nil => exact ⟨p, by simp, by simpa using hc⟩
    | cons q qs =>
      rw [List.intercalate_cons_cons, List.mem_append, List.mem_append] at hc
      obtain (hp | hsep) | hqs := hc
      · exact ⟨p, by simp, hp⟩
      · exact absurd (List.mem_singleton.mp hsep) hne
      · obtain ⟨r, hr, hcr⟩ := ih hqs
        exact ⟨r, List.mem_cons_of_mem _ hr, hcr⟩

theorem exists_mem_splitOn {c sep : Char} {cs : List Char} (hc : c ∈ cs) (hne : c ≠ sep) :
    ∃ p ∈ cs.splitOn sep, c ∈ p := by
  have hjoin : [sep].intercalate (cs.splitOn sep) = cs := List.intercalate_splitOn sep
  rw [← hjoin] at hc
  exact exists_mem_of_mem_intercalate hc hne

end Text

open Text

namespace Dotted
variable {c : Char} {cs : List Char} {os : List Nat}

theorem readOctet_decimal {n : Nat} (h : n < 256) : readOctet (decimal n) = some n := by
  have hzero : ¬((decimal n).head? = some '0' ∧ (decimal n).length ≠ 1) := by
    rintro ⟨hhead, hlen⟩
    obtain rfl := eq_zero_of_head?_toDigits (by decide) hhead
    exact hlen rfl
  rw [readOctet, if_neg hzero, decimal, readNat_toDigits (by decide) (by decide)]
  simp [h]

theorem readOctets_write (hlen : os.length = 4) (h : ∀ o ∈ os, o < 256) :
    readOctets (write os) = some os := by
  have hdot : ∀ l ∈ os.map decimal, '.' ∉ l := by
    simp only [List.forall_mem_map]
    exact fun o _ => not_mem_toDigits (by decide) (by decide) (by decide) o
  have hne : os.map decimal ≠ [] := by
    rintro hnil
    simp [List.map_eq_nil_iff.mp hnil] at hlen
  rw [readOctets, write, List.splitOn_intercalate '.' hdot hne,
    mapM_map_eq_some fun o ho => readOctet_decimal (h o ho)]
  simp [hlen]

/-- A single piece is no quad. -/
theorem readOctets_eq_none_of_not_mem (h : '.' ∉ cs) : readOctets cs = none := by
  rw [readOctets, List.splitOn_eq_singleton h]
  cases ho : readOctet cs <;> simp [ho]

theorem readOctets_eq_none_of_mem (hc : c ∈ cs) (hdot : c ≠ '.') (hdigit : digit? 10 c = none) :
    readOctets cs = none := by
  obtain ⟨p, hp, hcp⟩ := exists_mem_splitOn hc hdot
  have hnone : readOctet p = none := by
    rw [readOctet, readNat_eq_none_of_mem hcp hdigit]
    simp
  rw [readOctets, mapM_eq_none_of_mem hp hnone]
  rfl

end Dotted

namespace Colon
variable {c : Char} {cs r : List Char} {gs : List Nat} {g : Nat}

theorem readGroup_toDigits (h : g < 65536) : readGroup (Nat.toDigits 16 g) = some g := by
  have hlen : (Nat.toDigits 16 g).length ≤ 4 :=
    (Nat.length_toDigits_le_iff (by decide) (by decide)).mpr h
  rw [readGroup, if_pos hlen, readNat_toDigits (by decide) (by decide)]

theorem colon_not_mem_toDigits (g : Nat) : ':' ∉ Nat.toDigits 16 g :=
  not_mem_toDigits (by decide) (by decide) (by decide) g

theorem readQuad_toDigits (g : Nat) : readQuad (Nat.toDigits 16 g) = none := by
  rw [readQuad, Dotted.readOctets_eq_none_of_not_mem]
  exact not_mem_toDigits (by decide) (by decide) (by decide) g

theorem readPieces_map (h : ∀ g ∈ gs, g < 65536) :
    readPieces (gs.map (Nat.toDigits 16)) = some gs := by
  induction gs with
  | nil => rfl
  | cons g gs ih =>
    rw [List.forall_mem_cons] at h
    cases gs with
    | nil => simp [readPieces, readQuad_toDigits, readGroup_toDigits h.1]
    | cons k ks =>
      have ih := ih h.2
      rw [List.map_cons] at ih ⊢
      rw [List.map_cons, readPieces, ih, readGroup_toDigits h.1]
      · rfl
      · simp

theorem writeGroups_cons_cons (g k : Nat) (gs : List Nat) :
    writeGroups (g :: k :: gs) = Nat.toDigits 16 g ++ ':' :: writeGroups (k :: gs) := by
  simp [writeGroups]

theorem writeGroups_ne_nil (h : gs ≠ []) : writeGroups gs ≠ [] := by
  match gs, h with
  | [g], _ => simp [writeGroups]
  | g :: k :: gs, _ => simp [writeGroups_cons_cons]

theorem pieces_writeGroups (gs : List Nat) :
    pieces (writeGroups gs) = gs.map (Nat.toDigits 16) := by
  by_cases h : gs = []
  · subst h; rfl
  · have hcolon : ∀ l ∈ gs.map (Nat.toDigits 16), ':' ∉ l := by
      simp only [List.forall_mem_map]
      exact fun g _ => colon_not_mem_toDigits g
    rw [pieces, if_neg (by simpa using writeGroups_ne_nil h), writeGroups,
      List.splitOn_intercalate ':' hcolon (by simpa using h)]

theorem cut_cons (h : cs.head? ≠ some ':' ∨ c ≠ ':') :
    cut (c :: cs) = (cut cs).map fun p => (c :: p.1, p.2) := by
  cases cs with
  | nil => rfl
  | cons d ds =>
    rw [cut, if_neg]
    rintro ⟨rfl, rfl⟩
    simp at h

/-- No double colon begins before the first colon. -/
theorem cut_append_of_not_mem (h : ':' ∉ cs) (r : List Char) :
    cut (cs ++ r) = (cut r).map fun p => (cs ++ p.1, p.2) := by
  induction cs with
  | nil => simp
  | cons c cs ih =>
    rw [List.mem_cons, not_or] at h
    rw [List.cons_append, cut_cons (.inr (Ne.symm h.1)), ih h.2, Option.map_map]
    rfl

theorem head?_writeGroups_append (g : Nat) (gs : List Nat) (r : List Char) :
    (writeGroups (g :: gs) ++ r).head? ≠ some ':' := by
  have hstart : ∃ t, writeGroups (g :: gs) ++ r = Nat.toDigits 16 g ++ t := by
    cases gs with
    | nil => exact ⟨r, by simp [writeGroups]⟩
    | cons k gs => exact ⟨_, by rw [writeGroups_cons_cons, List.append_assoc]⟩
  obtain ⟨t, ht⟩ := hstart
  rw [ht, List.head?_append, List.head?_eq_some_head Nat.toDigits_ne_nil, Option.some_or, ne_eq,
    Option.some_inj]
  intro hcolon
  exact colon_not_mem_toDigits g (hcolon ▸ List.head_mem Nat.toDigits_ne_nil)

/-- Written groups hold no double colon, and end in a digit. -/
theorem cut_writeGroups_append (gs : List Nat) (r : List Char) :
    cut (writeGroups gs ++ r) = (cut r).map fun p => (writeGroups gs ++ p.1, p.2) := by
  induction gs with
  | nil => simp [writeGroups]
  | cons g gs ih =>
    cases gs with
    | nil => simpa [writeGroups] using cut_append_of_not_mem (colon_not_mem_toDigits g) r
    | cons k gs =>
      rw [writeGroups_cons_cons, List.append_assoc, List.cons_append,
        cut_append_of_not_mem (colon_not_mem_toDigits g),
        cut_cons (.inl (head?_writeGroups_append k gs r)), ih, Option.map_map, Option.map_map]
      simp [Function.comp_def]

theorem replicate_zeroRun_append (gs : List Nat) :
    List.replicate (zeroRun gs) 0 ++ gs.drop (zeroRun gs) = gs := by
  induction gs with
  | nil => rfl
  | cons g gs ih =>
    by_cases hg : g = 0
    · have hrun : zeroRun (g :: gs) = zeroRun gs + 1 := by simp [zeroRun, hg]
      rw [hrun, List.replicate_succ, List.drop_succ_cons, List.cons_append, ih, hg]
    · simp [zeroRun, hg]

/-- The zeros of the longest run stand where it starts. -/
theorem take_longestZeroRun (gs : List Nat) :
    gs.take (longestZeroRun gs).1 ++ List.replicate (longestZeroRun gs).2 0 ++
      gs.drop ((longestZeroRun gs).1 + (longestZeroRun gs).2) = gs := by
  induction gs with
  | nil => rfl
  | cons g gs ih =>
    simp only [longestZeroRun]
    split
    · simpa using replicate_zeroRun_append (g :: gs)
    · simpa [Nat.succ_add] using ih

theorem readGroups_writeShort (hlen : gs.length = 8) (h : ∀ g ∈ gs, g < 65536) :
    readGroups (writeShort gs) = some gs := by
  have hzeros := take_longestZeroRun gs
  rw [writeShort]
  generalize longestZeroRun gs = run at hzeros ⊢
  obtain ⟨start, len⟩ := run
  dsimp only at hzeros ⊢
  split
  next hlong =>
    have hcut : cut (writeGroups (gs.take start) ++ [':', ':'] ++
        writeGroups (gs.drop (start + len))) =
        some (writeGroups (gs.take start), writeGroups (gs.drop (start + len))) := by
      rw [List.append_assoc, cut_writeGroups_append]
      simp [cut]
    have hhead : ((gs.take start).map (Nat.toDigits 16)).mapM readGroup = some (gs.take start) :=
      mapM_map_eq_some fun g hg => readGroup_toDigits (h g (List.mem_of_mem_take hg))
    have htail : readPieces ((gs.drop (start + len)).map (Nat.toDigits 16)) =
        some (gs.drop (start + len)) :=
      readPieces_map fun g hg => h g (List.mem_of_mem_drop hg)
    have hcount : (gs.take start).length + len + (gs.drop (start + len)).length = 8 := by
      rw [← hlen, ← congrArg List.length hzeros, List.length_append, List.length_append,
        List.length_replicate]
    have hzeroCount :
        8 - ((gs.take start).length + (gs.drop (start + len)).length) = len := by omega
    rw [readGroups, hcut]
    simp only [pieces_writeGroups, hhead, htail, Option.bind_eq_bind, Option.bind_some, hzeroCount,
      hzeros, ite_eq_left_iff]
    omega
  next =>
    have hcut : cut (writeGroups gs) = none := by
      simpa [cut] using cut_writeGroups_append gs []
    rw [readGroups, hcut]
    simp [pieces_writeGroups, readPieces_map h, hlen]

theorem readGroups_mapped {q : List Char} {k l : Nat} (hquad : readQuad q = some [k, l])
    (hcolon : ':' ∉ q) :
    readGroups ("::ffff:".toList ++ q) = some [0, 0, 0, 0, 0, 0xffff, k, l] := by
  have hsplit : "::ffff:".toList ++ q = ':' :: ':' :: ("ffff".toList ++ ':' :: q) := rfl
  have hpieces : pieces ("ffff".toList ++ ':' :: q) = ["ffff".toList, q] := by
    rw [pieces, if_neg (by simp), List.splitOn_append_cons_self_of_not_mem (by decide),
      List.splitOn_eq_singleton hcolon]
  have htail : readPieces ["ffff".toList, q] = some [0xffff, k, l] := by
    have hword : readGroup "ffff".toList = some 0xffff := by decide
    rw [readPieces, readPieces, hquad, hword]
    · rfl
    · simp
  rw [hsplit, readGroups, cut, if_pos ⟨rfl, rfl⟩]
  simp only [hpieces, htail, Option.bind_eq_bind, Option.bind_some]
  rfl

theorem readGroups_write (hlen : gs.length = 8) (h : ∀ g ∈ gs, g < 65536) :
    readGroups (write gs) = some gs := by
  unfold write
  split
  next k l =>
    have hk : k < 65536 := h k (by simp)
    have hl : l < 65536 := h l (by simp)
    have hoctets : Dotted.readOctets (Dotted.write [k / 256, k % 256, l / 256, l % 256]) =
        some [k / 256, k % 256, l / 256, l % 256] :=
      Dotted.readOctets_write rfl (by simp; omega)
    refine readGroups_mapped ?_ fun hcolon => ?_
    · rw [readQuad, hoctets]
      simp [Nat.div_add_mod]
    · cases hoctets.symm.trans (Dotted.readOctets_eq_none_of_mem hcolon (by decide) (by decide))
  next => exact readGroups_writeShort hlen h

theorem colon_mem_write (hlen : gs.length = 8) : ':' ∈ write gs := by
  unfold write
  split
  next => simp
  next =>
    unfold writeShort
    dsimp only
    split
    · simp
    · match gs, hlen with
      | g :: k :: gs, _ => simp [writeGroups_cons_cons]

end Colon

namespace Address

/-- A number is what its last digits say, up to a power of the base. -/
theorem foldl_parts (bits k n : Nat) :
    ((List.range k).map fun i => n >>> (bits * (k - 1 - i)) % 2 ^ bits).foldl
      (fun m p => 2 ^ bits * m + p) 0 = n % 2 ^ (bits * k) := by
  induction k generalizing n with
  | zero => simp [Nat.mod_one]
  | succ k ih =>
    have hparts : (List.range k).map (fun i => n >>> (bits * (k - i)) % 2 ^ bits) =
        (List.range k).map fun i => (n >>> bits) >>> (bits * (k - 1 - i)) % 2 ^ bits := by
      refine List.map_congr_left fun i hi => ?_
      have hi : i < k := List.mem_range.mp hi
      have hstep : k - i = k - 1 - i + 1 := by omega
      rw [← Nat.shiftRight_add, hstep, Nat.mul_succ, Nat.add_comm bits]
    rw [List.range_succ, List.map_append, List.foldl_append, Nat.add_sub_cancel, hparts, ih,
      Nat.mul_succ, Nat.add_comm (bits * k), Nat.pow_add, Nat.mod_mul]
    simp [Nat.shiftRight_eq_div_pow, Nat.add_comm]

theorem ofParts_parts (bits k : Nat) (hwidth : F.width = bits * k) (a : Address F) :
    ofParts (2 ^ bits)
      ((List.range k).map fun i => a.toNat >>> (bits * (k - 1 - i)) % 2 ^ bits) = a := by
  have hlt : a.toNat < 2 ^ (bits * k) := hwidth ▸ a.word.isLt
  rw [ofParts, foldl_parts, Nat.mod_eq_of_lt hlt, ofNat_toNat]

theorem ofParts_octets (a : Address .v4) : ofParts 256 a.octets = a := ofParts_parts 8 4 rfl a

theorem ofParts_groups (a : Address .v6) : ofParts 65536 a.groups = a := ofParts_parts 16 8 rfl a

end Address

theorem AnyAddress.ofChars?_chars (a : AnyAddress) : ofChars? a.chars = some a := by
  obtain ⟨F, a⟩ := a
  cases F with
  | v4 =>
    have hoctets : ∀ o ∈ a.octets, o < 256 := by
      simp only [Address.octets, List.forall_mem_map]
      exact fun i _ => Nat.mod_lt _ (by decide)
    have hread : Dotted.read (Dotted.write a.octets) = some a := by
      rw [Dotted.read, Dotted.readOctets_write rfl hoctets, Option.map_some,
        Address.ofParts_octets]
    simp [ofChars?, chars, Address.chars, hread, Address.widen]
  | v6 =>
    have hgroups : ∀ g ∈ a.groups, g < 65536 := by
      simp only [Address.groups, List.forall_mem_map]
      exact fun i _ => Nat.mod_lt _ (by decide)
    have hread : Colon.read (Colon.write a.groups) = some a := by
      rw [Colon.read, Colon.readGroups_write rfl hgroups, Option.map_some, Address.ofParts_groups]
    have hdotted : Dotted.read (Colon.write a.groups) = none := by
      rw [Dotted.read, Dotted.readOctets_eq_none_of_mem (Colon.colon_mem_write rfl) (by decide)
        (by decide), Option.map_none]
    simp [ofChars?, chars, Address.chars, hread, hdotted, Address.widen]

theorem Address.text_injective : Function.Injective (text (F := F)) := by
  intro a b h
  have hchars : a.chars = b.chars := String.ofList_injective h
  have hread := (AnyAddress.ofChars?_chars ⟨F, a⟩).symm.trans
    ((congrArg AnyAddress.ofChars? hchars).trans (AnyAddress.ofChars?_chars ⟨F, b⟩))
  simpa using hread

end LinkConfig
