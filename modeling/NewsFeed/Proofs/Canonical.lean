/-
Hosts in their written form are canonical.

A host that is read again in its written form comes out as the same host: labels are in ASCII
already, without capital letters, and a label in Punycode stands for the text that it was made of.
There is one exception.  Punycode of any length is written for labels of up to a thousand
characters, but no more than two thousand characters of it are read (`IsLegible`).

* `Label.read?_ascii` — labels;
* `exists_labels`, `labels?_joinLabels` — domains;
* `ofDomain?_write` — hosts.
-/
import NewsFeed.Proofs.Capitals
import NewsFeed.Proofs.Insertions
import NewsFeed.Proofs.Numbered

namespace NewsFeed

namespace Host

/-! ### Labels -/

namespace Label

/-- Whether a character can stand in a label: none that is mapped to another one, that is not
allowed in a domain, or that ends the label. -/
def IsAllowed (c : Char) : Prop :=
  c.isUpper = false ∧ isForbidden c = false ∧ c ≠ '.'

instance (c : Char) : Decidable (IsAllowed c) :=
  inferInstanceAs (Decidable (_ ∧ _ ∧ _))

/-- Whether a label is not in Punycode that is too long to be read. -/
def IsLegible (label : List Char) : Prop :=
  lead <+: label → label.length ≤ lead.length + longestCode

instance (label : List Char) : Decidable (IsLegible label) :=
  inferInstanceAs (Decidable (_ → _))

/-- What a label in ASCII is made of. -/
def IsAscii (label : List Char) : Prop :=
  ∀ c ∈ label, isAscii c = true ∧ IsAllowed c

instance (label : List Char) : Decidable (IsAscii label) :=
  List.decidableBAll (fun c => isAscii c = true ∧ IsAllowed c) label

theorem isAscii_lead : IsAscii lead := by
  decide

theorem allowed_of_isSome_digit? {c : Char} (h : (Punycode.digit? c).isSome = true) :
    isAscii c = true ∧ IsAllowed c := by
  have hascii : isAscii c = true := by
    refine decide_eq_true ?_
    unfold Punycode.digit? at h
    split_ifs at h with hletter hdecimal
    · exact Nat.lt_of_le_of_lt hletter.2 (by decide)
    · exact Nat.lt_of_le_of_lt hdecimal.2 (by decide)
    · cases h
  have hallowed : (Punycode.digit? c).isSome = true → IsAllowed c :=
    of_isAscii (p := fun c => (Punycode.digit? c).isSome = true → IsAllowed c)
      (by decide +kernel) hascii
  exact ⟨hascii, hallowed h⟩

theorem isAscii_encode {label : List Char} (h : ∀ c ∈ label, IsAllowed c) :
    IsAscii (Punycode.encode label) := by
  intro c hmem
  rcases Punycode.mem_encode hmem with ⟨hc, hbasic⟩ | rfl | hdigit
  · exact ⟨decide_eq_true hbasic, h c hc⟩
  · decide
  · exact allowed_of_isSome_digit? hdigit

variable {label : List Char} {found : Label}

/-- The three ways to read a label. -/
theorem read?_cases (h : read? label = some found) :
    (label.all isAscii = true ∧ found.ascii = label ∧ IsLegible label) ∨
      (isExtended label = true ∧ found = ⟨label, lead ++ Punycode.encode label⟩) := by
  unfold read? at h
  dsimp only at h
  split_ifs at h with hlead hcode hascii hextended
  · obtain ⟨text, -, rfl⟩ := Option.map_eq_some_iff.mp h
    refine .inl ⟨hcode.1, rfl, fun _ => ?_⟩
    have hlength := hcode.2
    rw [List.length_drop] at hlength
    omega
  · obtain rfl := Option.some.inj h
    exact .inl ⟨hascii, rfl, fun hlead' => absurd hlead' hlead⟩
  · exact .inr ⟨hextended, (Option.some.inj h).symm⟩

theorem isAscii_of_read? (h : read? label = some found) (hallowed : ∀ c ∈ label, IsAllowed c) :
    IsAscii found.ascii := by
  rcases read?_cases h with ⟨hascii, heq, -⟩ | ⟨-, rfl⟩
  · rw [heq]
    exact fun c hc => ⟨List.all_eq_true.mp hascii c hc, hallowed c hc⟩
  · exact List.forall_mem_append.mpr ⟨isAscii_lead, isAscii_encode hallowed⟩

/-- A label is read again from its form in ASCII, unless that is too long. -/
theorem read?_ascii (h : read? label = some found) (hallowed : ∀ c ∈ label, IsAllowed c) :
    read? found.ascii = if IsLegible found.ascii then some found else none := by
  rcases read?_cases h with ⟨-, heq, hlegible⟩ | ⟨hextended, rfl⟩
  · rw [heq, h, if_pos hlegible]
  · -- an extended label: what it reads back to is decided by its code alone, which decodes to the
    -- label
    have hascii : (lead ++ Punycode.encode label).all isAscii = true :=
      List.all_eq_true.mpr fun c hc => (isAscii_of_read? h hallowed c hc).1
    have hlead : lead <+: lead ++ Punycode.encode label := List.prefix_append _ _
    have hlegible : IsLegible (lead ++ Punycode.encode label) ↔
        (Punycode.encode label).length ≤ longestCode := by
      rw [IsLegible, List.length_append, Nat.add_le_add_iff_left]
      exact ⟨fun hle => hle hlead, fun hle _ => hle⟩
    rw [read?]
    dsimp only
    rw [if_pos hlead, List.drop_left, hascii, Punycode.decode_encode,
      Option.filter_some_pos hextended]
    simp only [true_and, hlegible, Option.map_some]

end Label

/-! ### Domains -/

/-- Whether a host can be read: no label is in Punycode that is too long. -/
def IsLegible (text : List Char) : Prop :=
  ∀ label ∈ Text.split (· = '.') text, Label.IsLegible label

instance (text : List Char) : Decidable (IsLegible text) :=
  inferInstanceAs (Decidable (∀ label ∈ Text.split (· = '.') text, _))

/-- Whether labels are those of a domain: they are in ASCII, can be read again unless they are too
long, and cannot be misread together. -/
structure IsDomain (labels : List Label) : Prop where
  ne_nil : labels ≠ []
  oneWay : readOneWay (labels.map (·.text)) = true
  ascii : ∀ label ∈ labels, Label.IsAscii label.ascii
  again : ∀ label ∈ labels,
    Label.read? label.ascii = if Label.IsLegible label.ascii then some label else none

/-- Where the labels of a domain come from. -/
theorem exists_labels {text : List Char} {domain : List (List Char)}
    (h : labels? text = some domain) :
    ∃ labels : List Label, domain = labels.map (·.ascii) ∧ IsDomain labels := by
  obtain ⟨mapped, hmapped, h⟩ := Option.bind_eq_some_iff.mp h
  dsimp only at h
  split at h
  · cases h
  · next hforbidden =>
    obtain ⟨labels, hlabels, h⟩ := Option.bind_eq_some_iff.mp h
    split at h
    · next honeWay =>
      obtain rfl := Option.some.inj h
      -- composing puts no capital back into what mapping has made small
      have hupper : ∀ c ∈ Text.composed mapped.flatten, c.isUpper = false := by
        refine fun c => Text.isUpper_of_mem_composed fun d hd => ?_
        obtain ⟨target, htarget, hd⟩ := List.mem_flatten.mp hd
        obtain ⟨e, -, he⟩ := exists_of_mapM_eq_some hmapped target htarget
        exact isUpper_of_mem_mapped? he hd
      -- splitting takes the dots out, and the check before it the forbidden characters
      have hallowed : ∀ piece ∈ Text.split (· = '.') (Text.composed mapped.flatten),
          ∀ c ∈ piece, Label.IsAllowed c := by
        intro piece hpiece c hc
        obtain ⟨hmem, hdot⟩ := Text.mem_of_mem_split hpiece hc
        refine ⟨hupper c hmem, ?_, of_decide_eq_false hdot⟩
        simpa using List.any_eq_false.mp (Bool.not_eq_true _ ▸ hforbidden) c hmem
      have hne : labels ≠ [] := by
        rintro rfl
        exact Text.split_ne_nil _ _ (eq_nil_of_mapM_eq_some_nil hlabels)
      refine ⟨labels, rfl, hne, honeWay, fun label hlabel => ?_, fun label hlabel => ?_⟩
      all_goals
        obtain ⟨piece, hpiece, hread⟩ := exists_of_mapM_eq_some hlabels label hlabel
      · exact Label.isAscii_of_read? hread (hallowed piece hpiece)
      · exact Label.read?_ascii hread (hallowed piece hpiece)
    · cases h

namespace IsDomain

variable {labels : List Label}

/-- What a domain is made of. -/
theorem mem_joinLabels (h : IsDomain labels) {c : Char}
    (hmem : c ∈ joinLabels (labels.map (·.ascii))) :
    isAscii c = true ∧ c.isUpper = false ∧ isForbidden c = false := by
  rcases Text.mem_of_mem_intercalate hmem with rfl | ⟨piece, hpiece, hc⟩
  · decide
  · obtain ⟨label, hlabel, rfl⟩ := List.mem_map.mp hpiece
    obtain ⟨hascii, hupper, hforbidden, -⟩ := h.ascii label hlabel c hc
    exact ⟨hascii, hupper, hforbidden⟩

theorem split_joinLabels (h : IsDomain labels) :
    Text.split (· = '.') (joinLabels (labels.map (·.ascii))) = labels.map (·.ascii) := by
  refine Text.split_intercalate (List.forall_mem_map.mpr fun label hlabel hdot => ?_)
    (by simpa using h.ne_nil)
  exact (h.ascii label hlabel '.' hdot).2.2.2 rfl

theorem isLegible_iff (h : IsDomain labels) :
    IsLegible (joinLabels (labels.map (·.ascii))) ↔
      ∀ label ∈ labels, Label.IsLegible label.ascii := by
  rw [IsLegible, h.split_joinLabels, List.forall_mem_map]

/-- The labels of a domain are read again together, or not at all. -/
theorem mapM_read? {labels : List Label} (h : ∀ label ∈ labels,
      Label.read? label.ascii = if Label.IsLegible label.ascii then some label else none) :
    (labels.map (·.ascii)).mapM Label.read? =
      if ∀ label ∈ labels, Label.IsLegible label.ascii then some labels else none := by
  induction labels with
  | nil => rfl
  | cons label rest ih =>
    obtain ⟨hlabel, hrest⟩ := List.forall_mem_cons.mp h
    rw [List.map_cons, List.mapM_cons, hlabel, ih hrest]
    simp only [List.forall_mem_cons]
    -- one label that is too long is enough to fail the whole
    by_cases hfirst : Label.IsLegible label.ascii
    · by_cases hothers : ∀ label ∈ rest, Label.IsLegible label.ascii
      · rw [if_pos hothers, if_pos hfirst, if_pos ⟨hfirst, hothers⟩]
        rfl
      · rw [if_neg hothers, if_pos hfirst, if_neg fun hall : _ ∧ _ => hothers hall.2]
        rfl
    · rw [if_neg hfirst, if_neg fun hall : _ ∧ _ => hfirst hall.1]
      rfl

/-- A domain in ASCII is read again, unless a label is too long. -/
theorem labels?_joinLabels (h : IsDomain labels) :
    labels? (joinLabels (labels.map (·.ascii))) =
      if IsLegible (joinLabels (labels.map (·.ascii))) then some (labels.map (·.ascii))
      else none := by
  have hsplit := h.split_joinLabels
  have hlegible := h.isLegible_iff
  have hmem := fun c => @mem_joinLabels labels h c
  -- from here on only what is known of the characters of the joined text counts
  generalize joinLabels (labels.map (·.ascii)) = text at *
  have hmapped : text.mapM mapped? = some (text.map ([·])) :=
    mapM_eq_map fun c hc => mapped?_of_isAscii (hmem c hc).1 (hmem c hc).2.1
  -- ASCII text is mapped to itself and already composed
  have hcomposed : Text.composed (text.map ([·])).flatten = text := by
    rw [← List.flatMap_def, List.flatMap_singleton']
    exact composed_of_isAscii fun c hc => (hmem c hc).1
  have hforbidden : text.any isForbidden = false :=
    List.any_eq_false.mpr fun c hc => by simp [(hmem c hc).2.2]
  rw [labels?, hmapped]
  simp only [Option.bind_eq_bind, Option.bind_some]
  rw [hcomposed, hforbidden, hsplit, mapM_read? h.again]
  simp only [hlegible]
  rw [if_neg Bool.false_ne_true]
  split
  · rw [Option.bind_some, h.oneWay]
    rfl
  · rfl

end IsDomain

namespace Ipv4

variable {address : Ipv4} {label : List Char}

theorem isDigit_of_mem_labels (hlabel : label ∈ address.labels) {c : Char} (hc : c ∈ label) :
    c.isDigit = true := by
  obtain ⟨n, -, rfl⟩ := List.mem_map.mp hlabel
  exact Nat.isDigit_of_mem_toDigits (by decide) (by decide) hc

theorem isAscii_of_mem_labels (hlabel : label ∈ address.labels) : Label.IsAscii label := by
  intro c hc
  have hdigit : '0' ≤ c ∧ c ≤ '9' := by
    simpa [Char.isDigit, Char.le_def] using isDigit_of_mem_labels hlabel hc
  refine Label.allowed_of_isSome_digit? ?_
  unfold Punycode.digit?
  rw [if_pos hdigit]
  split <;> rfl

theorem not_lead_prefix (hlabel : label ∈ address.labels) : ¬ Label.lead <+: label := by
  intro hlead
  cases isDigit_of_mem_labels hlabel (hlead.subset List.mem_cons_self)

/-- The labels of an address are those of a domain. -/
theorem isDomain_labels (address : Ipv4) :
    IsDomain (address.labels.map fun label => ⟨label, label⟩) := by
  refine ⟨by simp [labels, bytes], ?_, ?_, ?_⟩
  · -- digits have no direction of writing that could be mixed
    have hmixing : ((address.labels.map fun label => (⟨label, label⟩ : Label)).map (·.text)).any
        (·.any fun c => (Direction.ofChar c).isMixing) = false := by
      rw [List.map_map]
      refine List.any_eq_false.mpr fun digits hdigits => ?_
      rw [Bool.not_eq_true]
      refine List.any_eq_false.mpr fun c hc => ?_
      obtain ⟨label, hlabel, rfl⟩ := List.mem_map.mp hdigits
      rw [Direction.ofChar, if_pos (isAscii_of_mem_labels hlabel c hc).1,
        if_pos (isDigit_of_mem_labels hlabel hc)]
      decide
    rw [readOneWay, hmixing]
    rfl
  · exact List.forall_mem_map.mpr fun label => isAscii_of_mem_labels
  · refine List.forall_mem_map.mpr fun label hlabel => ?_
    have hlead := not_lead_prefix hlabel
    have hall : label.all isAscii = true :=
      List.all_eq_true.mpr fun c hc => (isAscii_of_mem_labels hlabel c hc).1
    -- a label that does not begin with the lead of an extended one is legible at any length
    have hlegible : Label.IsLegible label := fun hfront => absurd hfront hlead
    rw [Label.read?, if_neg hlead, if_pos hall, if_pos hlegible]

theorem map_ascii_labels (address : Ipv4) :
    (address.labels.map fun label => (⟨label, label⟩ : Label)).map (·.ascii) = address.labels := by
  rw [List.map_map]
  exact List.map_id' _

end Ipv4

/-! ### Hosts -/

/-- The host with the labels of a domain. -/
def ofLabels? (labels : List (List Char)) : Option Host :=
  if (joinLabels labels).isEmpty then none
  else if Ipv4.endsInNumber labels then (Ipv4.ofLabels? labels).map .ipv4
  else some (.domain (joinLabels labels))

theorem ofDomain?_of_head {text : List Char} (h : text.head? ≠ some '[') :
    ofDomain? text = (Text.Percent.decode? text).bind fun text =>
      (labels? text).bind ofLabels? := by
  rw [ofDomain?, if_neg h]
  rfl

/-- A domain in ASCII is read as the host with its labels, unless one of these is too long. -/
theorem IsDomain.ofDomain?_joinLabels {labels : List Label} (h : IsDomain labels) :
    ofDomain? (joinLabels (labels.map (·.ascii))) =
      if IsLegible (joinLabels (labels.map (·.ascii))) then ofLabels? (labels.map (·.ascii))
      else none := by
  have hhead : (joinLabels (labels.map (·.ascii))).head? ≠ some '[' := by
    intro hhead
    cases (h.mem_joinLabels (List.mem_of_head? hhead)).2.2
  have hpercent : Text.Percent.decode? (joinLabels (labels.map (·.ascii))) =
      some (joinLabels (labels.map (·.ascii))) := by
    refine if_neg fun hcontains => ?_
    cases (h.mem_joinLabels (List.contains_iff_mem.mp hcontains)).2.2
  rw [ofDomain?_of_head hhead, hpercent, Option.bind_some, h.labels?_joinLabels]
  split <;> rfl

/-- The labels of a written IPv4 address are read as that address. -/
theorem ofLabels?_ipv4 (address : Ipv4) : ofLabels? address.labels = some (.ipv4 address) := by
  have hempty : (joinLabels address.labels).isEmpty = false := by
    simp [joinLabels, Ipv4.labels, Ipv4.bytes]
  rw [ofLabels?, hempty, address.endsInNumber_labels, address.ofLabels?_labels]
  rfl

/-- What a host of the web is: an IPv6 address, or what its labels are read as. -/
theorem ofDomain?_cases {text : List Char} {host : Host} (h : ofDomain? text = some host) :
    (∃ address inner, Ipv6.read? inner = some address ∧ host = .ipv6 address) ∨
      ∃ labels : List Label, IsDomain labels ∧
        host.write.toList = joinLabels (labels.map (·.ascii)) ∧
        ofLabels? (labels.map (·.ascii)) = some host := by
  by_cases hhead : text.head? = some '['
  · rw [ofDomain?, if_pos hhead, ofBrackets?] at h
    split at h
    · obtain ⟨address, haddress, rfl⟩ := Option.map_eq_some_iff.mp h
      exact .inl ⟨address, _, haddress, rfl⟩
    · cases h
  · right
    rw [ofDomain?_of_head hhead] at h
    obtain ⟨decoded, -, h⟩ := Option.bind_eq_some_iff.mp h
    obtain ⟨domain, hdomain, h⟩ := Option.bind_eq_some_iff.mp h
    obtain ⟨labels, rfl, hlabels⟩ := exists_labels hdomain
    have hread := h
    rw [ofLabels?] at h
    split at h
    · cases h
    · split at h
      · -- An IPv4 address is written with labels of its own, in place of those it was read from.
        obtain ⟨address, -, rfl⟩ := Option.map_eq_some_iff.mp h
        refine ⟨_, address.isDomain_labels, ?_, ?_⟩ <;> rw [address.map_ascii_labels]
        · exact address.toList_write
        · exact ofLabels?_ipv4 address
      · obtain rfl := Option.some.inj h
        exact ⟨labels, hlabels, String.toList_ofList, hread⟩

theorem toList_write_ipv6 (address : Ipv6) :
    (Host.ipv6 address).write.toList = '[' :: (address.write.toList ++ [']']) := by
  rw [write, String.toList_append, String.toList_append]
  rfl

/-- A written IPv6 address is read as that address. -/
theorem ofDomain?_ipv6 {inner : List Char} {address : Ipv6} (h : Ipv6.read? inner = some address) :
    ofDomain? (Host.ipv6 address).write.toList = some (.ipv6 address) := by
  have hlast : ('[' :: (address.write.toList ++ [']'])).getLast? = some ']' := by
    rw [← List.cons_append, List.getLast?_concat]
  rw [toList_write_ipv6, ofDomain?, if_pos List.head?_cons, ofBrackets?, if_pos hlast,
    List.drop_one, List.tail_cons, List.dropLast_concat, Ipv6.read?_write (Ipv6.lt_of_read? h)]
  rfl

theorem isLegible_ipv6 (address : Ipv6) : IsLegible (Host.ipv6 address).write.toList := by
  rw [toList_write_ipv6]
  -- an address between brackets has no dots, so it is one label, and its bracket is not the lead
  have hdot : '.' ∉ '[' :: (address.write.toList ++ [']']) := by
    intro hmem
    rcases List.mem_cons.mp hmem with heq | hmem
    · cases heq
    · rcases List.mem_append.mp hmem with hmem | hmem
      · rcases Ipv6.mem_write hmem with heq | hhex
        · cases heq
        · cases hhex
      · cases List.mem_singleton.mp hmem
  have hsplit := Text.split_intercalate (List.forall_mem_singleton.mpr hdot) (by simp)
  rw [List.intercalate_singleton] at hsplit
  rw [IsLegible, hsplit]
  refine List.forall_mem_singleton.mpr fun hlead => ?_
  cases (List.cons_prefix_cons.mp hlead).1

/-- A host that has been read is read again from its written form, unless a label is too long. -/
theorem ofDomain?_write {text : List Char} {host : Host} (h : ofDomain? text = some host) :
    ofDomain? host.write.toList =
      if IsLegible host.write.toList then some host else none := by
  rcases ofDomain?_cases h with ⟨address, inner, hread, rfl⟩ | ⟨labels, hlabels, hwrite, hread⟩
  · rw [ofDomain?_ipv6 hread, if_pos (isLegible_ipv6 address)]
  · rw [hwrite, hlabels.ofDomain?_joinLabels, hread]

end Host

end NewsFeed
