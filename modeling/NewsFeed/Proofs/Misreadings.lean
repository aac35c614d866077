/-
Addresses without a host in a browsing history.

An address may have no host, such as the address of a mailbox or of a file on the same machine.  In
a history it counts all the same, because it is read once more with `https://` in front: what was
its scheme, or the machine of the mailbox, is then taken for the host.  Only an address that has no
host in the second reading either is left out.

* `visitsByHost_insert`, `visitsByHost_insert_eq_iff` — what one entry adds to the counts, and when
  that is nothing;
* `hostOf_of_hostless_notMem`, `hostOf_of_hostless_append` — which host the second reading finds, of
  an address without an `@` and of one with it;
* `hostless_entries_count` — what this makes of all addresses without a host, and of those of files
  and mailboxes.
-/
import NewsFeed.Proofs.Assumed
import NewsFeed.Proofs.Counting

namespace NewsFeed

/-! ### Entries -/

/-- What an entry of a history adds to the counts. -/
theorem visitsByHost_insert (before after : List String) (raw : String) :
    visitsByHost (before ++ raw :: after) =
      (hostOf raw).elim (visitsByHost (before ++ after))
        ((visitsByHost (before ++ after)).add · 1) := by
  have hperm : (before ++ raw :: after).Perm ((before ++ after) ++ [raw]) :=
    List.perm_middle.trans (List.perm_append_singleton raw _).symm
  rw [visitsByHost_perm hperm, visitsByHost, List.filterMap_append, List.foldl_append]
  cases hhost : hostOf raw with
  | none => simp [hhost, visitsByHost]
  | some host => simp [hhost, visitsByHost]

/-- Only a count that has reached the greatest one stays as it is. -/
theorem Visits.add_one_eq_self_iff {visits : Visits} {key : String} :
    visits.add key 1 = visits ↔ visits.count key = mostVisits := by
  have hcount : (visits.add key 1).count key = min (visits.count key + 1) mostVisits := by
    rw [count_add, if_pos rfl]
    rfl
  constructor
  · intro h
    rw [h] at hcount
    -- the count would be one more, unless it is at its greatest
    omega
  · intro h
    refine Dict.ext_get? fun key' => ?_
    rw [get?_add]
    split_ifs with hkey
    · subst hkey
      have hget : (visits.get? key).getD 0 = UInt32.ofNat mostVisits := UInt32.toNat_inj.mp h
      rw [h]
      -- a host that was never visited counts 0, which is not the greatest count
      cases hfound : visits.get? key with
      | none =>
        rw [hfound] at hget
        cases hget
      | some count =>
        rw [hfound, Option.getD_some] at hget
        rw [hget]
        rfl
    · rfl

/-- When an entry of a history leaves the counts as they are. -/
theorem visitsByHost_insert_eq_iff {before after : List String} {raw : String} :
    visitsByHost (before ++ raw :: after) = visitsByHost (before ++ after) ↔
      ∀ host, hostOf raw = some host →
        (visitsByHost (before ++ after)).count host = mostVisits := by
  rw [visitsByHost_insert]
  cases hostOf raw with
  | none => simp
  | some host => simpa using Visits.add_one_eq_self_iff

namespace Address

variable {text scheme : List Char}

/-- What is read as an address starts with a scheme. -/
theorem exists_of_read? {address : Address} (h : read? text = some address) :
    ∃ first name rest, cleaned text = first :: name ++ ':' :: rest ∧ first.isAlpha = true ∧
      ∀ c ∈ first :: name, isSchemeChar c = true := by
  obtain ⟨⟨scheme, rest⟩, hcut, -⟩ := Option.bind_eq_some_iff.mp h
  unfold cutScheme? at hcut
  split at hcut
  · next halpha =>
    split at hcut
    · next rest hrest =>
      -- the scheme is all that stands before the first colon
      have hsplit := List.takeWhile_append_dropWhile (p := isSchemeChar) (l := cleaned text)
      rw [hrest] at hsplit
      cases htext : cleaned text with
      | nil =>
        rw [htext] at halpha
        cases halpha
      | cons first others =>
        rw [htext] at halpha hsplit
        have hfirst : first.isAlpha = true := halpha
        have hscheme : isSchemeChar first = true := by
          simp [isSchemeChar, Char.isAlphanum, hfirst]
        rw [List.takeWhile_cons_of_pos hscheme] at hsplit
        refine ⟨first, _, rest, hsplit.symm, hfirst, fun c hmem => ?_⟩
        rcases List.mem_cons.mp hmem with rfl | hmem
        · exact hscheme
        · exact List.mem_takeWhile_imp hmem
    · cases hcut
  · cases hcut

/-- An address as it counts behind another text: what stands before its first colon is plain. -/
theorem kept_of_read? {address : Address} (h : read? text = some address) :
    ∃ first name rest, kept text = first :: name ++ ':' :: rest ∧ IsPlain (first :: name) := by
  obtain ⟨first, name, rest, htext, -, hname⟩ := exists_of_read? h
  have hne : cleaned text ≠ [] := by
    rw [htext]
    exact List.cons_ne_nil _ _
  obtain ⟨blanks, hblanks, hkept⟩ := kept_eq_append_cleaned hne
  have hplain : IsPlain (blanks ++ first :: name) := by
    intro c hmem
    rcases List.mem_append.mp hmem with hmem | hmem
    · exact isPlain_of (p := isEdge) (by decide) hblanks c hmem
    · exact isPlain_of (p := isSchemeChar) (by decide) hname c hmem
  rw [htext] at hkept
  cases blanks with
  | nil => exact ⟨first, name, rest, hkept, hplain⟩
  | cons blank blanks =>
    refine ⟨blank, blanks ++ first :: name, rest, ?_, hplain⟩
    rw [hkept]
    simp

end Address

open Address

/-! ### The second reading of an address -/

section

variable {raw : String} {scheme : List Char}

/-- An address without a host and without an `@` in its authority: its scheme is taken for the host,
if a number can stand where the colon is. -/
theorem hostOf_of_hostless_notMem (h : read? raw.toList = some ⟨scheme, none⟩)
    (hmem : '@' ∉ authority (kept raw.toList)) :
    hostOf raw =
      if numberFits ((kept raw.toList).dropWhile (· ≠ ':')) then
        (Host.ofDomain? ((kept raw.toList).takeWhile (· ≠ ':'))).map Host.write
      else none := by
  obtain ⟨first, name, rest, hkept, hplain⟩ := kept_of_read? h
  have hcolon : ∀ c ∈ first :: name, decide (c ≠ ':') = true := by
    intro c hc
    refine decide_eq_true fun heq => hplain c hc ?_
    rw [heq]
    decide
  rw [hkept, authority_append hplain, List.mem_append, not_or] at hmem
  have hslash : (first :: name ++ ':' :: rest).dropWhile isSlash = first :: name ++ ':' :: rest :=
    dropWhile_isSlash_cons (hplain first List.mem_cons_self)
  rw [hostOf_of_hostless (by rw [h]; rfl), hkept, hslash, webHost?_append_colon hplain hmem.2,
    List.takeWhile_append_of_pos hcolon, List.dropWhile_append_of_pos hcolon,
    List.takeWhile_cons_of_neg (by simp), List.dropWhile_cons_of_neg (by simp), List.append_nil]
  split <;> rfl

/-- An address without a host and with an `@` in its authority: what stands behind the last one is
read. -/
theorem hostOf_of_hostless_append (h : read? raw.toList = some ⟨scheme, none⟩)
    {front name : List Char} (hkept : kept raw.toList = front ++ '@' :: name)
    (hfront : ∀ c ∈ front, SchemeKind.web.isEnd c = false) (hname : '@' ∉ authority name) :
    hostOf raw = (webHost? name).map Host.write := by
  obtain ⟨first, scheme, rest, hkept', hplain⟩ := kept_of_read? h
  have hfirst : first ∉ marks := hplain first List.mem_cons_self
  rw [hostOf_of_hostless (by rw [h]; rfl)]
  rw [hkept'] at hkept ⊢
  rw [List.cons_append, dropWhile_isSlash_cons hfirst, ← List.cons_append, hkept]
  cases front with
  | nil =>
    obtain rfl : first = '@' := (List.cons_eq_cons.mp hkept).1
    exact absurd (by decide) hfirst
  | cons c front => rw [webHost?_append hfront (List.cons_ne_nil c front) hname]

end

/-! ### Files and mailboxes -/

/-- The address of a file on the same machine. -/
theorem hostOf_file (path : String) :
    read? ("file:///" ++ path).toList = some ⟨"file".toList, none⟩ ∧
      hostOf ("file:///" ++ path) = some "file" := by
  have hkept : kept ("file:///" ++ path).toList = "file:///".toList ++ kept path.toList := by
    rw [String.toList_append, kept_append (by decide)]
    rfl
  have hcleaned : cleaned ("file:///" ++ path).toList = "file:///".toList ++ kept path.toList := by
    rw [String.toList_append, cleaned_append _ (by decide)]
    · rfl
    · intro c hmem
      obtain rfl : 'f' = c := Option.some.inj hmem
      decide
  have hread : read? ("file:///" ++ path).toList = some ⟨"file".toList, none⟩ := by
    rw [read?, hcleaned]
    rfl
  refine ⟨hread, ?_⟩
  -- behind `https://` the host ends at the slash, before any `@` of the path
  have hmem : '@' ∉ authority (kept ("file:///" ++ path).toList) := by
    rw [hkept]
    exact (by decide : '@' ∉ ['f', 'i', 'l', 'e', ':'])
  have hdomain : (Host.ofDomain? "file".toList).map Host.write = some "file" := by decide +kernel
  rw [hostOf_of_hostless_notMem hread hmem, hkept]
  exact hdomain

theorem isPlain_kept {text : List Char} (h : IsPlain text) : IsPlain (kept text) := by
  intro c hmem
  have hreverse := List.mem_reverse.mp (List.mem_filter.mp hmem).1
  exact h c (List.mem_reverse.mp ((List.dropWhile_suffix _).subset hreverse))

/-- A plain text is no address, and is read as a host. -/
theorem hostOf_of_isPlain {name : String} (h : IsPlain name.toList) :
    hostOf name = (webHost? (kept name.toList)).map Host.write := by
  have hread : read? name.toList = none := read?_of_notMem_colon fun hmem => h _ hmem (by decide)
  have hslash : (kept name.toList).dropWhile isSlash = kept name.toList :=
    dropWhile_eq_self fun c hmem =>
      isSlash_of_notMem (isPlain_kept h c (List.mem_of_mem_head? hmem))
  rw [hostOf_of_hostless (by rw [hread]; rfl), hslash]

/-- Outside of the web there is no host without slashes. -/
theorem hostAfter?_other_of_head {text : List Char} (h : ∀ c ∈ text.head?, c ≠ '/') :
    hostAfter? .other text = some none := by
  unfold hostAfter?
  dsimp only
  split
  · exact absurd rfl (h '/' rfl)
  · rfl

/-- The address of a mailbox. -/
theorem hostOf_mailbox {user name : String}
    (huser : ∀ c ∈ user.toList, SchemeKind.web.isEnd c = false) (hname : IsPlain name.toList) :
    read? ("mailto:" ++ user ++ "@" ++ name).toList = some ⟨"mailto".toList, none⟩ ∧
      hostOf ("mailto:" ++ user ++ "@" ++ name) = hostOf name := by
  -- line breaks and tabs are dropped, and nothing else of the user is
  obtain ⟨users, husers⟩ : ∃ users, users = user.toList.filter fun c => !isBreak c := ⟨_, rfl⟩
  have hends : ∀ c ∈ users, SchemeKind.web.isEnd c = false := by
    intro c hmem
    rw [husers] at hmem
    exact huser c (List.mem_filter.mp hmem).1
  have hlast : ("mailto:" ++ user ++ "@").toList.getLast?.any isEdge = false := by
    rw [String.toList_append, List.getLast?_append_of_ne_nil _ (by decide)]
    decide
  have hfilter : (("mailto:" ++ user ++ "@").toList.filter fun c => !isBreak c) =
      "mailto:".toList ++ users ++ ['@'] := by
    rw [String.toList_append, String.toList_append, List.filter_append, List.filter_append, husers]
    rfl
  have hkept : kept ("mailto:" ++ user ++ "@" ++ name).toList =
      "mailto:".toList ++ users ++ '@' :: kept name.toList := by
    rw [String.toList_append, kept_append hlast, hfilter, List.append_assoc, List.singleton_append]
  have hcleaned : cleaned ("mailto:" ++ user ++ "@" ++ name).toList =
      "mailto:".toList ++ (users ++ '@' :: kept name.toList) := by
    rw [String.toList_append, cleaned_append _ hlast, hfilter, List.append_assoc,
      List.singleton_append, List.append_assoc]
    intro c hmem
    rw [String.toList_append, String.toList_append] at hmem
    obtain rfl : 'm' = c := Option.some.inj hmem
    decide
  -- `mailto:` is followed by no slashes, so the address has no host
  have hread : read? ("mailto:" ++ user ++ "@" ++ name).toList =
      some ⟨"mailto".toList, none⟩ := by
    have hcut : cutScheme? ("mailto:".toList ++ (users ++ '@' :: kept name.toList)) =
        some ("mailto".toList, users ++ '@' :: kept name.toList) := rfl
    have hafter : hostAfter? .other (users ++ '@' :: kept name.toList) = some none := by
      refine hostAfter?_other_of_head fun c hmem => ?_
      -- a slash would end the host, and the user has none
      rintro rfl
      cases users with
      | nil => cases hmem
      | cons first users =>
        obtain rfl : first = '/' := Option.some.inj hmem
        cases hends '/' List.mem_cons_self
    rw [read?, hcleaned, hcut]
    show ((hostAfter? (SchemeKind.ofScheme "mailto".toList) _).bind _) = _
    rw [show SchemeKind.ofScheme "mailto".toList = .other by decide, hafter]
    rfl
  refine ⟨hread, ?_⟩
  -- read again, all before the `@` is taken for a user and a password
  rw [hostOf_of_isPlain hname]
  refine hostOf_of_hostless_append hread hkept (fun c hmem => ?_) fun hmem =>
    isPlain_kept hname _ ((List.takeWhile_prefix _).subset hmem) (by decide)
  rcases List.mem_append.mp hmem with hmem | hmem
  · have hscheme : "mailto:".toList.any SchemeKind.web.isEnd = false := by decide
    simpa using List.any_eq_false.mp hscheme c hmem
  · exact hends c hmem

/-! ### Histories -/

/-- **Addresses without a host count in a history.**  An entry that is an address without a host
adds what its second reading finds: the scheme, if there is no `@` in front of the first slash,
question mark or number sign and a number may stand behind the colon; or else what stands behind the
last `@`.  The counts stay as they are only for an entry without a host in the second reading, or
with one that has reached the greatest count.  So every file on the same machine is a visit to
`file`, and every mailbox one to its machine. -/
theorem hostless_entries_count (before after : List String) :
    (∀ raw scheme, read? (String.toList raw) = some ⟨scheme, none⟩ →
      visitsByHost (before ++ raw :: after) =
        (hostOf raw).elim (visitsByHost (before ++ after))
          ((visitsByHost (before ++ after)).add · 1) ∧
      (visitsByHost (before ++ raw :: after) = visitsByHost (before ++ after) ↔
        ∀ host, hostOf raw = some host →
          (visitsByHost (before ++ after)).count host = mostVisits) ∧
      ('@' ∉ authority (kept raw.toList) → hostOf raw =
        if numberFits ((kept raw.toList).dropWhile (· ≠ ':')) then
          (Host.ofDomain? ((kept raw.toList).takeWhile (· ≠ ':'))).map Host.write
        else none) ∧
      ∀ front name, kept raw.toList = front ++ '@' :: name →
        (∀ c ∈ front, SchemeKind.web.isEnd c = false) → '@' ∉ authority name →
          hostOf raw = (webHost? name).map Host.write) ∧
    (∀ path, read? ("file:///" ++ path).toList = some ⟨"file".toList, none⟩ ∧
      visitsByHost (before ++ ("file:///" ++ path) :: after) =
        (visitsByHost (before ++ after)).add "file" 1) ∧
    ∀ user name, (∀ c ∈ user.toList, SchemeKind.web.isEnd c = false) → IsPlain name.toList →
      read? ("mailto:" ++ user ++ "@" ++ name).toList = some ⟨"mailto".toList, none⟩ ∧
      visitsByHost (before ++ ("mailto:" ++ user ++ "@" ++ name) :: after) =
        visitsByHost (before ++ name :: after) := by
  refine ⟨fun raw scheme h => ⟨visitsByHost_insert before after raw, visitsByHost_insert_eq_iff,
    hostOf_of_hostless_notMem h, fun front name => hostOf_of_hostless_append h⟩, ?_, ?_⟩
  · intro path
    obtain ⟨hread, hhost⟩ := hostOf_file path
    rw [visitsByHost_insert, hhost]
    exact ⟨hread, rfl⟩
  · intro user name huser hname
    obtain ⟨hread, hhost⟩ := hostOf_mailbox huser hname
    rw [visitsByHost_insert, visitsByHost_insert, hhost]
    exact ⟨hread, rfl⟩

/-- A mailbox, a telephone number that could be the number of a host, and one that could not. -/
theorem hostless_entries_count_mailbox :
    visitsByHost ["mailto:user@name", "tel:42", "tel:5550123"] =
        (visitsByHost ["name", "tel:5550123"]).add "tel" 1 ∧
      visitsByHost ["name", "tel:5550123"] = visitsByHost ["name"] := by
  have huser : ∀ c ∈ "user".toList, SchemeKind.web.isEnd c = false := by
    simp [SchemeKind.isEnd]
  have hname : IsPlain "name".toList := by decide
  obtain ⟨-, -, hmailbox⟩ := hostless_entries_count [] ["tel:42", "tel:5550123"]
  have hmail := (hmailbox "user" "name" huser hname).2
  obtain ⟨hsmall, -, hhost, -⟩ := (hostless_entries_count ["name"] ["tel:5550123"]).1
    "tel:42" "tel".toList (by decide +kernel)
  have htel : hostOf "tel:42" = some "tel" := (hhost (by decide +kernel)).trans (by decide +kernel)
  rw [htel] at hsmall
  obtain ⟨-, hleft, hnone, -⟩ := (hostless_entries_count ["name"] []).1
    "tel:5550123" "tel".toList (by decide +kernel)
  have hignored : hostOf "tel:5550123" = none :=
    (hnone (by decide +kernel)).trans (by decide +kernel)
  have hsame := hleft.mpr fun host hfound => by
    rw [hignored] at hfound
    cases hfound
  exact ⟨hmail.trans hsmall, hsame⟩

end NewsFeed
