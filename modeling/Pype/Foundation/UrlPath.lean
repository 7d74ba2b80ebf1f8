import Mathlib.Data.List.Infix
import Mathlib.Data.List.TakeWhile

/-!
# Texts as segments of a URL path

A path is written segment by segment into a URL.  The sender cuts the URL at its
query and its fragment, removes dot segments, and escapes what it has to, but keeps
escapes that are already there.  The reader undoes all escapes of a segment and
decodes the bytes.
-/

namespace Pype
namespace Foundation
namespace UrlPath

/-!
## Escapes
-/

def hexValue (c : Char) : Option Nat :=
  if '0' ≤ c ∧ c ≤ '9' then some (c.toNat - 48)
  else if 'A' ≤ c ∧ c ≤ 'F' then some (c.toNat - 55)
  else if 'a' ≤ c ∧ c ≤ 'f' then some (c.toNat - 87)
  else none

/-- The byte that three characters stand for, if they are an escape. -/
def escaped (c high low : Char) : Option UInt8 :=
  if c = '%' then
    match hexValue high, hexValue low with
    | some h, some l => some (UInt8.ofNat (16 * h + l))
    | _, _ => none
  else none

/-- The bytes of a text once its escapes are undone. -/
def octets : List Char -> List UInt8
  | [] => []
  | c :: high :: low :: rest =>
      match escaped c high low with
      | some byte => byte :: octets rest
      | none => String.utf8EncodeChar c ++ octets (high :: low :: rest)
  | c :: rest => String.utf8EncodeChar c ++ octets rest

def escapes : List Char -> Nat
  | [] => 0
  | c :: high :: low :: rest =>
      match escaped c high low with
      | some _ => escapes rest + 1
      | none => escapes (high :: low :: rest)
  | _ :: rest => escapes rest

def hexDigit (n : Nat) : Char := Char.ofNat (if n < 10 then 48 + n else 55 + n)

def escapeByte (byte : UInt8) : List Char :=
  ['%', hexDigit (byte.toNat / 16), hexDigit (byte.toNat % 16)]

def quoteChar (safe : Char -> Bool) (c : Char) : List Char :=
  if c ≠ '%' ∧ safe c = true then [c]
  else (String.utf8EncodeChar c).flatMap escapeByte

/-- A text as it is sent. -/
def quote (safe : Char -> Bool) : List Char -> List Char
  | [] => []
  | c :: high :: low :: rest =>
      match escaped c high low with
      | some _ => c :: high :: low :: quote safe rest
      | none => quoteChar safe c ++ quote safe (high :: low :: rest)
  | c :: rest => quoteChar safe c ++ quote safe rest

theorem octets_cons {c : Char} (hc : c ≠ '%') (rest : List Char) :
    octets (c :: rest) = String.utf8EncodeChar c ++ octets rest := by
  match rest with
  | [] => rfl
  | [_] => rfl
  | high :: low :: rest =>
      have hnone : escaped c high low = none := if_neg hc
      rw [octets, hnone]

theorem hexValue_hexDigit :
    forall n, n < 16 -> hexValue (hexDigit n) = some n := by
  decide

theorem escaped_escapeByte (byte : UInt8) :
    escaped '%' (hexDigit (byte.toNat / 16)) (hexDigit (byte.toNat % 16)) =
      some byte := by
  have hbyte : byte.toNat < 256 := UInt8.toNat_lt_size byte
  unfold escaped
  rw [if_pos rfl, hexValue_hexDigit _ (by omega), hexValue_hexDigit _ (by omega)]
  dsimp only
  rw [Nat.div_add_mod, UInt8.ofNat_toNat]

theorem octets_escapeByte (byte : UInt8) (rest : List Char) :
    octets (escapeByte byte ++ rest) = byte :: octets rest := by
  show octets (_ :: _ :: _ :: rest) = _
  rw [octets, escaped_escapeByte]

theorem octets_escapeBytes (bytes : List UInt8) (rest : List Char) :
    octets (bytes.flatMap escapeByte ++ rest) = bytes ++ octets rest := by
  induction bytes with
  | nil => rfl
  | cons byte bytes ih =>
      rw [List.flatMap_cons, List.append_assoc, octets_escapeByte, ih]
      rfl

theorem octets_quoteChar (safe : Char -> Bool) (c : Char) (rest : List Char) :
    octets (quoteChar safe c ++ rest) = String.utf8EncodeChar c ++ octets rest := by
  unfold quoteChar
  split
  · rename_i hsafe
    exact octets_cons hsafe.left rest
  · exact octets_escapeBytes _ rest

/-- What is sent of a text stands for the same bytes as the text. -/
theorem octets_quote (safe : Char -> Bool) (t : List Char) :
    octets (quote safe t) = octets t := by
  induction t using octets.induct with
  | case1 => rfl
  | case2 c high low rest byte hsome ih =>
      rw [quote, octets, hsome]
      dsimp only
      rw [octets, hsome]
      dsimp only
      rw [ih]
  | case3 c high low rest hnone ih =>
      rw [quote, octets, hnone]
      dsimp only
      rw [octets_quoteChar, ih]
  | case4 c rest hshort ih =>
      rw [quote, octets, octets_quoteChar, ih]
      · exact hshort
      · exact hshort

/-!
## Reading bytes as text
-/

/-- A decoder of bytes that need not be UTF-8: characters that are encoded well are
read wherever they stand, and no more is read than there are bytes. -/
structure Decoder where
  decode : List UInt8 -> List Char
  length_le : forall bytes, (decode bytes).length ≤ bytes.length
  decode_char : forall before c after,
    decode (before ++ (String.utf8EncodeChar c ++ after)) =
      decode before ++ c :: decode after

namespace Decoder

theorem decode_nil (d : Decoder) : d.decode [] = [] :=
  List.eq_nil_of_length_eq_zero (Nat.le_zero.mp (d.length_le []))

/-- A text that is read back from its bytes is shorter by two characters for every
escape in it. -/
theorem length_decode_octets (d : Decoder) (before : List UInt8) (t : List Char) :
    (d.decode (before ++ octets t)).length + 2 * escapes t ≤
      before.length + t.length := by
  induction t using octets.induct generalizing before with
  | case1 =>
      have hlength := d.length_le before
      rw [octets, escapes, List.append_nil]
      simpa using hlength
  | case2 c high low rest byte hsome ih =>
      have hrest := ih (before ++ [byte])
      rw [octets, escapes, hsome]
      dsimp only
      rw [List.append_assoc] at hrest
      simp only [List.length_append, List.length_cons, List.length_nil,
        List.singleton_append] at hrest ⊢
      omega
  | case3 c high low rest hnone ih =>
      have hrest := ih []
      have hbefore := d.length_le before
      rw [octets, escapes, hnone]
      dsimp only
      rw [d.decode_char]
      simp only [List.length_append, List.length_cons, List.nil_append,
        List.length_nil] at hrest ⊢
      omega
  | case4 c rest hshort ih =>
      have hrest := ih []
      have hbefore := d.length_le before
      rw [octets, escapes, d.decode_char]
      · simp only [List.length_append, List.length_cons, List.nil_append,
          List.length_nil] at hrest ⊢
        omega
      · exact hshort
      · exact hshort

/-- A text without escapes is read back from its bytes. -/
theorem decode_octets (d : Decoder) {t : List Char} (h : escapes t = 0) :
    d.decode (octets t) = t := by
  induction t using octets.induct with
  | case1 => exact d.decode_nil
  | case2 c high low rest byte hsome ih =>
      rw [escapes, hsome] at h
      cases h
  | case3 c high low rest hnone ih =>
      rw [escapes, hnone] at h
      rw [octets, hnone]
      dsimp only
      have hchar := d.decode_char [] c (octets (high :: low :: rest))
      rw [List.nil_append, d.decode_nil, List.nil_append] at hchar
      rw [hchar, ih h]
  | case4 c rest hshort ih =>
      rw [escapes] at h
      · rw [octets]
        · have hchar := d.decode_char [] c (octets rest)
          rw [List.nil_append, d.decode_nil, List.nil_append] at hchar
          rw [hchar, ih h]
        · exact hshort
      · exact hshort

end Decoder

/-!
## Leaving out what is not UTF-8
-/

theorem toByteArray_toList (b : ByteArray) : b.data.toList.toByteArray = b := by
  apply ByteArray.ext
  simp

/-- The character whose encoding the bytes begin with. -/
def firstChar (bytes : List UInt8) : Option Char :=
  bytes.toByteArray.utf8DecodeChar? 0

theorem firstChar_append (c : Char) (after : List UInt8) :
    firstChar (String.utf8EncodeChar c ++ after) = some c := by
  unfold firstChar
  rw [List.toByteArray_append, ByteArray.utf8DecodeChar?_utf8EncodeChar_append]

theorem exists_of_firstChar {bytes : List UInt8} {c : Char}
    (h : firstChar bytes = some c) :
    exists after, bytes = String.utf8EncodeChar c ++ after := by
  rcases ByteArray.exists_of_utf8DecodeChar?_eq_some h with ⟨after, hafter⟩
  refine ⟨after.data.toList, ?_⟩
  apply List.toByteArray_inj.mp
  rw [hafter, List.toByteArray_append, toByteArray_toList]

theorem firstChar_of_cons {byte : UInt8} {bytes : List UInt8} {c : Char}
    (h : firstChar (byte :: bytes) = some c) : byte.IsUTF8FirstByte := by
  rcases exists_of_firstChar h with ⟨after, hafter⟩
  have hlength : 0 < (String.utf8EncodeChar c).length := by
    rw [String.length_utf8EncodeChar]
    exact c.utf8Size_pos
  have hfirst : byte = (String.utf8EncodeChar c)[0] := by
    have hhead := congrArg (fun l => l[0]?) hafter
    rw [List.getElem?_append_left hlength, List.getElem?_eq_getElem hlength] at hhead
    exact Option.some.inj hhead
  rw [hfirst]
  exact UInt8.isUTF8FirstByte_getElem_utf8EncodeChar.mpr rfl

/-- The characters that are encoded well in the bytes; every other byte is left out. -/
def lossy : List UInt8 -> List Char
  | [] => []
  | byte :: bytes => (firstChar (byte :: bytes)).toList ++ lossy bytes

theorem lossy_append_of_not_first {before : List UInt8}
    (h : forall byte, byte ∈ before -> ¬ byte.IsUTF8FirstByte) (after : List UInt8) :
    lossy (before ++ after) = lossy after := by
  induction before with
  | nil => rfl
  | cons byte before ih =>
      have hnone : firstChar (byte :: (before ++ after)) = none := by
        cases hchar : firstChar (byte :: (before ++ after)) with
        | none => rfl
        | some c => exact absurd (firstChar_of_cons hchar) (h byte List.mem_cons_self)
      rw [List.cons_append, lossy, hnone,
        ih fun other hother => h other (List.mem_cons_of_mem _ hother)]
      rfl

theorem not_first_of_mem_tail {c : Char} {byte : UInt8}
    (h : byte ∈ (String.utf8EncodeChar c).tail) : ¬ byte.IsUTF8FirstByte := by
  rcases List.mem_iff_getElem.mp h with ⟨i, hi, rfl⟩
  rw [List.getElem_tail, UInt8.isUTF8FirstByte_getElem_utf8EncodeChar]
  exact Nat.succ_ne_zero i

theorem utf8EncodeChar_ne_nil (c : Char) : String.utf8EncodeChar c ≠ [] := by
  intro h
  have hlength := congrArg List.length h
  rw [String.length_utf8EncodeChar] at hlength
  exact absurd hlength (Nat.ne_of_gt c.utf8Size_pos)

theorem lossy_char (c : Char) (after : List UInt8) :
    lossy (String.utf8EncodeChar c ++ after) = c :: lossy after := by
  have hchar := firstChar_append c after
  cases hbytes : String.utf8EncodeChar c with
  | nil => exact absurd hbytes (utf8EncodeChar_ne_nil c)
  | cons byte bytes =>
      rw [hbytes, List.cons_append] at hchar
      rw [List.cons_append, lossy, hchar, lossy_append_of_not_first]
      · rfl
      · intro other hother
        have htail : other ∈ (String.utf8EncodeChar c).tail := by
          rw [hbytes]
          exact hother
        exact not_first_of_mem_tail htail

theorem firstChar_append_char {bytes : List UInt8} (hne : bytes ≠ []) (c : Char)
    (after : List UInt8) :
    firstChar (bytes ++ (String.utf8EncodeChar c ++ after)) = firstChar bytes := by
  cases hwhole : firstChar (bytes ++ (String.utf8EncodeChar c ++ after)) with
  | none =>
      cases hbytes : firstChar bytes with
      | none => rfl
      | some d =>
          rcases exists_of_firstChar hbytes with ⟨rest, rfl⟩
          rw [List.append_assoc, firstChar_append] at hwhole
          cases hwhole
  | some d =>
      rcases exists_of_firstChar hwhole with ⟨rest, hrest⟩
      rcases List.append_eq_append_iff.mp hrest with ⟨more, hd, hc⟩ | ⟨more, hbytes, _⟩
      · -- the encoding of `d` would reach into that of `c`
        cases hmore : more with
        | nil =>
            rw [hmore, List.append_nil] at hd
            rw [← hd, ← List.append_nil (String.utf8EncodeChar d), firstChar_append]
        | cons byte more' =>
            exfalso
            cases hcbytes : String.utf8EncodeChar c with
            | nil => exact utf8EncodeChar_ne_nil c hcbytes
            | cons first cbytes =>
                rw [hcbytes, hmore] at hc
                have hsame : first = byte := by
                  simpa using (List.cons.inj hc).left
                have htail : byte ∈ (String.utf8EncodeChar d).tail := by
                  rw [hd, hmore, List.tail_append_of_ne_nil hne]
                  simp
                apply not_first_of_mem_tail htail
                rw [← hsame]
                have hchar := firstChar_append c []
                rw [hcbytes] at hchar
                exact firstChar_of_cons hchar
      · rw [hbytes, firstChar_append]

theorem lossy_append_char (before : List UInt8) (c : Char) (after : List UInt8) :
    lossy (before ++ (String.utf8EncodeChar c ++ after)) =
      lossy before ++ c :: lossy after := by
  induction before with
  | nil => exact lossy_char c after
  | cons byte before ih =>
      have hchar := firstChar_append_char (List.cons_ne_nil byte before) c after
      rw [List.cons_append] at hchar
      rw [List.cons_append, lossy, lossy, hchar, ih, List.append_assoc]

theorem length_lossy_le (bytes : List UInt8) : (lossy bytes).length ≤ bytes.length := by
  induction bytes with
  | nil => exact Nat.le_refl _
  | cons byte bytes ih =>
      have hchar : (firstChar (byte :: bytes)).toList.length ≤ 1 := by
        cases firstChar (byte :: bytes) <;> simp
      rw [lossy, List.length_append, List.length_cons]
      omega

/-- The decoder that leaves out ill-formed bytes. -/
def Decoder.ignore : Decoder where
  decode := lossy
  length_le := length_lossy_le
  decode_char := lossy_append_char

/-!
## Segments
-/

/-- The segments that are left when dot segments are removed, after those of
`out`. -/
def removeDots (out : List (List Char)) : List (List Char) -> List (List Char)
  | [] => out
  | segment :: rest =>
      if segment = ['.'] then
        removeDots (if rest = [] then out ++ [[]] else out) rest
      else if segment = ['.', '.'] then
        removeDots (if rest = [] then out.dropLast ++ [[]] else out.dropLast) rest
      else removeDots (out ++ [segment]) rest

/-- The end of the path in a URL. -/
def EndsPath (c : Char) : Prop := c = '?' ∨ c = '#'

instance (c : Char) : Decidable (EndsPath c) :=
  inferInstanceAs (Decidable (_ ∨ _))

def pathPart (url : List Char) : List Char :=
  url.takeWhile fun c => decide (¬ EndsPath c)

/-- The stacks between the writer of a path and its reader: the characters that are
sent unescaped, and the reader's decoder. -/
structure Transport where
  safe : Char -> Bool
  text : Decoder

def written (path : List String) : List Char :=
  ['/'].intercalate (path.map String.toList)

/-- What the reader makes of a segment that is sent. -/
def readSegment (transport : Transport) (segment : List Char) : String :=
  String.ofList (transport.text.decode (octets (quote transport.safe segment)))

/-- The segments that the reader sees of a path that is written into a URL. -/
def received (transport : Transport) (path : List String) : List String :=
  (removeDots [] ((pathPart (written path)).splitOn '/')).map (readSegment transport)

/-- A text that a path carries as one segment: it has no separator in it, no escape,
and is no dot segment. -/
def Carried (value : String) : Prop :=
  (forall c, c ∈ value.toList -> c ≠ '/' ∧ c ≠ '?' ∧ c ≠ '#') ∧
    escapes value.toList = 0 ∧ value ≠ "." ∧ value ≠ ".."

instance (value : String) : Decidable (Carried value) :=
  @instDecidableAnd _ _
    (List.decidableBAll (fun c => c ≠ '/' ∧ c ≠ '?' ∧ c ≠ '#') value.toList)
    instDecidableAnd

theorem length_le_of_mem_splitOn {t segment : List Char}
    (h : segment ∈ t.splitOn '/') :
    segment.length + t.count '/' ≤ t.length := by
  induction t generalizing segment with
  | nil =>
      rw [List.splitOn_nil, List.mem_singleton] at h
      subst h
      simp
  | cons c rest ih =>
      rw [List.splitOn_cons_eq_if_modifyHead] at h
      split at h
      · rename_i heq
        have hslash : c = '/' := by simpa using heq
        subst hslash
        rcases List.mem_cons.mp h with rfl | hrest
        · have hcount : rest.count '/' ≤ rest.length := List.count_le_length
          simp only [List.length_nil, List.count_cons_self, List.length_cons]
          omega
        · have hrest' := ih hrest
          simp only [List.count_cons_self, List.length_cons]
          omega
      · rename_i hne
        have hslash : c ≠ '/' := by simpa using hne
        rw [List.count_cons_of_ne hslash, List.length_cons]
        cases hsplit : rest.splitOn '/' with
        | nil =>
            rw [hsplit] at h
            cases h
        | cons head tail =>
            rw [hsplit, List.modifyHead_cons] at h
            rcases List.mem_cons.mp h with rfl | htail
            · have hhead := ih (hsplit ▸ List.mem_cons_self)
              rw [List.length_cons]
              omega
            · have htail' := ih (hsplit ▸ List.mem_cons_of_mem _ htail)
              omega

theorem eq_of_mem_splitOn {t segment : List Char} (h : segment ∈ t.splitOn '/')
    (hlength : t.length ≤ segment.length) : segment = t ∧ '/' ∉ t := by
  have hle := length_le_of_mem_splitOn h
  have hnot : '/' ∉ t := List.count_eq_zero.mp (by omega)
  rw [List.splitOn_eq_singleton hnot, List.mem_singleton] at h
  exact ⟨h, hnot⟩

theorem mem_tail_of_mem_dropLast_tail {segment : List Char} {out : List (List Char)}
    (h : segment ∈ out.dropLast.tail) : segment ∈ out.tail := by
  rw [List.tail_dropLast] at h
  exact List.mem_of_mem_dropLast h

theorem mem_tail_snoc {segment last : List Char} {out : List (List Char)}
    (h : segment ∈ (out ++ [last]).tail) : segment ∈ out.tail ∨ segment = last := by
  cases out with
  | nil => cases h
  | cons first out =>
      rw [List.cons_append, List.tail_cons] at h
      simpa using h

theorem mem_of_mem_removeDots {segment : List Char} (segments : List (List Char))
    (out : List (List Char)) (h : segment ∈ (removeDots out segments).tail) :
    segment ∈ out.tail ∨ segment = [] ∨ segment ∈ segments := by
  induction segments generalizing out with
  | nil => exact Or.inl h
  | cons first rest ih =>
      rw [removeDots] at h
      split at h
      · rcases ih _ h with hout | hempty | hrest
        · split at hout
          · rcases mem_tail_snoc hout with hout | hempty
            · exact Or.inl hout
            · exact Or.inr (Or.inl hempty)
          · exact Or.inl hout
        · exact Or.inr (Or.inl hempty)
        · exact Or.inr (Or.inr (List.mem_cons_of_mem _ hrest))
      · split at h
        · rcases ih _ h with hout | hempty | hrest
          · split at hout
            · rcases mem_tail_snoc hout with hout | hempty
              · exact Or.inl (mem_tail_of_mem_dropLast_tail hout)
              · exact Or.inr (Or.inl hempty)
            · exact Or.inl (mem_tail_of_mem_dropLast_tail hout)
          · exact Or.inr (Or.inl hempty)
          · exact Or.inr (Or.inr (List.mem_cons_of_mem _ hrest))
        · rcases ih _ h with hout | hempty | hrest
          · rcases mem_tail_snoc hout with hout | rfl
            · exact Or.inl hout
            · exact Or.inr (Or.inr List.mem_cons_self)
          · exact Or.inr (Or.inl hempty)
          · exact Or.inr (Or.inr (List.mem_cons_of_mem _ hrest))

/-!
## Two segments
-/

theorem Carried.not_mem {value : String} (h : Carried value) :
    '/' ∉ value.toList := by
  intro hmem
  exact (h.left '/' hmem).left rfl

theorem pathPart_append_of_carried {first : String} (hfirst : Carried first)
    (rest : List Char) :
    pathPart (first.toList ++ '/' :: rest) =
      first.toList ++ '/' :: pathPart rest := by
  have hkeep : forall c, c ∈ first.toList -> decide (¬ EndsPath c) = true := by
    intro c hc
    rcases hfirst.left c hc with ⟨_, hquery, hfragment⟩
    simp [EndsPath, hquery, hfragment]
  unfold pathPart
  rw [List.takeWhile_append_of_pos hkeep]
  rfl

theorem ne_dots_of_carried {value : String} (h : Carried value) :
    value.toList ≠ ['.'] ∧ value.toList ≠ ['.', '.'] := by
  constructor
  · intro hdot
    apply h.right.right.left
    rw [← String.toList_inj, hdot]
    rfl
  · intro hdots
    apply h.right.right.right
    rw [← String.toList_inj, hdots]
    rfl

theorem removeDots_of_carried {first : String} (hfirst : Carried first)
    (value : String) :
    removeDots [] ((pathPart (written [first, value])).splitOn '/') =
      removeDots [first.toList] ((pathPart value.toList).splitOn '/') := by
  have hwritten : written [first, value] = first.toList ++ '/' :: value.toList := by
    simp [written, List.intercalate]
  rcases ne_dots_of_carried hfirst with ⟨hdot, hdots⟩
  rw [hwritten, pathPart_append_of_carried hfirst,
    List.splitOn_append_cons_self_of_not_mem hfirst.not_mem, removeDots,
    if_neg hdot, if_neg hdots]
  rfl

theorem pathPart_eq_iff {t : List Char} :
    pathPart t = t <-> forall c, c ∈ t -> ¬ EndsPath c := by
  unfold pathPart
  rw [List.takeWhile_eq_self_iff]
  constructor
  · intro h c hc
    simpa using h c hc
  · intro h c hc
    simpa using h c hc

theorem Carried.pathPart {value : String} (h : Carried value) :
    UrlPath.pathPart value.toList = value.toList := by
  rw [pathPart_eq_iff]
  rintro c hc (rfl | rfl)
  · exact (h.left '?' hc).right.left rfl
  · exact (h.left '#' hc).right.right rfl

theorem readSegment_of_carried (transport : Transport) {value : String}
    (h : Carried value) : readSegment transport value.toList = value := by
  unfold readSegment
  rw [octets_quote, transport.text.decode_octets h.right.left, String.ofList_toList]

theorem received_of_carried (transport : Transport) {first value : String}
    (hfirst : Carried first) (hvalue : Carried value) :
    received transport [first, value] = [first, value] := by
  rcases ne_dots_of_carried hvalue with ⟨hdot, hdots⟩
  unfold received
  rw [removeDots_of_carried hfirst, hvalue.pathPart,
    List.splitOn_eq_singleton hvalue.not_mem, removeDots, if_neg hdot, if_neg hdots]
  show [_, _] = _
  rw [readSegment_of_carried transport hfirst, readSegment_of_carried transport hvalue]

/-- A segment that is read as the whole text was the whole text, without escapes. -/
theorem whole_of_decoded (d : Decoder) {segment t : List Char}
    (hmem : segment ∈ (pathPart t).splitOn '/')
    (hdecode : d.decode (octets segment) = t) :
    segment = t ∧ pathPart t = t ∧ '/' ∉ t ∧ escapes t = 0 := by
  have hread := d.length_decode_octets [] segment
  rw [List.nil_append, hdecode] at hread
  have hsegment := length_le_of_mem_splitOn hmem
  have hinitial : pathPart t <+: t := List.takeWhile_prefix _
  have hpart := hinitial.length_le
  simp only [List.length_nil, Nat.zero_add] at hread
  have hpath : pathPart t = t := hinitial.eq_of_length (by omega)
  rcases eq_of_mem_splitOn hmem (by omega) with ⟨hsame, hslash⟩
  rw [hpath] at hsame hslash
  subst hsame
  exact ⟨rfl, hpath, hslash, by omega⟩

theorem carried_of_received (transport : Transport) {first value : String}
    (hfirst : Carried first) (hne : value ≠ "")
    (h : received transport [first, value] = [first, value]) : Carried value := by
  unfold received at h
  rw [removeDots_of_carried hfirst] at h
  rcases List.map_eq_cons_iff.mp h with ⟨head, tail, hsegments, _, htail⟩
  rcases List.map_eq_cons_iff.mp htail with ⟨segment, rest, rfl, hread, hrest⟩
  rw [List.map_eq_nil_iff] at hrest
  subst hrest
  have hdecode : transport.text.decode (octets segment) = value.toList := by
    rw [← hread, readSegment, octets_quote, String.toList_ofList]
  have hnonempty : segment ≠ [] := by
    rintro rfl
    apply hne
    rw [← hread]
    show String.ofList (transport.text.decode []) = ""
    rw [transport.text.decode_nil]
  have hmem : segment ∈ (pathPart value.toList).splitOn '/' := by
    have htail : segment ∈ (removeDots [first.toList]
        ((pathPart value.toList).splitOn '/')).tail := by
      rw [hsegments]
      exact List.mem_singleton.mpr rfl
    rcases mem_of_mem_removeDots _ _ htail with hfirst' | hempty | hmem
    · cases hfirst'
    · exact absurd hempty hnonempty
    · exact hmem
  rcases whole_of_decoded transport.text hmem hdecode with
    ⟨rfl, hpath, hslash, hescapes⟩
  rw [hpath, List.splitOn_eq_singleton hslash] at hsegments
  refine ⟨?_, hescapes, ?_, ?_⟩
  · intro c hc
    have hends := pathPart_eq_iff.mp hpath c hc
    refine ⟨?_, fun hquery => hends (Or.inl hquery),
      fun hfragment => hends (Or.inr hfragment)⟩
    rintro rfl
    exact hslash hc
  · rintro rfl
    -- the dot leaves an empty segment
    rw [removeDots, if_pos (by rfl), if_pos rfl] at hsegments
    cases hsegments
  · rintro rfl
    -- the first segment is gone
    rw [removeDots, if_neg (by decide), if_pos (by rfl), if_pos rfl] at hsegments
    cases hsegments

/-- Of two segments of which the first is carried, the second arrives exactly if it
is carried. -/
theorem received_pair_iff (transport : Transport) {first value : String}
    (hfirst : Carried first) (hne : value ≠ "") :
    received transport [first, value] = [first, value] <-> Carried value := by
  constructor
  · exact carried_of_received transport hfirst hne
  · exact received_of_carried transport hfirst

end UrlPath
end Foundation
end Pype
