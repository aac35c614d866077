/-
Addresses with an assumed scheme.

A text without a host of its own is read once more with `https://` in front.  What comes out is
settled by the text alone (`webHost?`): blanks at its end and line breaks inside of it do not
count, nor do slashes at its start.  Up to the first slash, question mark or number sign it is taken
for a name, a password and a host.

* `host?_assumed` — the second reading of a text;
* `webHost?_of_notMem`, `webHost?_append` — hosts without a name in front of them, and with one;
* `webHost?_of_isPlain`, `webHost?_append_colon` — hosts by themselves, and in front of a colon;
* `read?_of_notMem_colon` — a text without a colon is not an address by itself.
-/
import Mathlib.Data.List.TakeWhile
import NewsFeed.Address

namespace NewsFeed

/-! ### Cutting texts -/

namespace Text

theorem cutAtLast?_of_notMem {separator : Char} {text : List Char} (h : separator ∉ text) :
    cutAtLast? separator text = none := by
  induction text with
  | nil => rfl
  | cons c rest ih =>
    rw [cutAtLast?, ih fun hmem => h (List.mem_cons_of_mem _ hmem)]
    refine if_neg fun heq => h ?_
    rw [heq]
    exact List.mem_cons_self

theorem cutAtLast?_append {separator : Char} (before : List Char) {after : List Char}
    (h : separator ∉ after) :
    cutAtLast? separator (before ++ separator :: after) = some (before, after) := by
  induction before with
  | nil => rw [List.nil_append, cutAtLast?, cutAtLast?_of_notMem h, if_pos rfl]
  | cons c rest ih => rw [List.cons_append, cutAtLast?, ih]

end Text

namespace Address

variable {kind : SchemeKind} {text front name rest : List Char}

/-! ### Characters that count -/

/-- The characters of a text that count when something else stands in front of it. -/
def kept (text : List Char) : List Char :=
  (text.reverse.dropWhile isEdge).reverse.filter fun c => !isBreak c

theorem dropWhile_eq_self {p : Char → Bool} (h : ∀ c ∈ text.head?, p c = false) :
    text.dropWhile p = text := by
  cases text with
  | nil => rfl
  | cons c rest => rw [List.dropWhile_cons_of_neg (by simp [h c rfl])]

theorem cleaned_eq (text : List Char) : cleaned text = kept (text.dropWhile isEdge) := rfl

/-- Blanks at the end of a text are dropped, but not those of what stands in front of it. -/
theorem kept_append (h : front.getLast?.any isEdge = false) :
    kept (front ++ text) = (front.filter fun c => !isBreak c) ++ kept text := by
  have hfront : front.reverse.dropWhile isEdge = front.reverse := by
    refine dropWhile_eq_self ?_
    rw [List.head?_reverse]
    exact (Option.any_eq_false _ _).mp h
  have hdrop : (text.reverse ++ front.reverse).dropWhile isEdge =
      text.reverse.dropWhile isEdge ++ front.reverse := by
    rw [List.dropWhile_append, hfront]
    split
    · next hnil => rw [List.isEmpty_iff.mp hnil, List.nil_append]
    · rfl
  rw [kept, List.reverse_append, hdrop, List.reverse_append, List.reverse_reverse,
    List.filter_append, kept]

theorem cleaned_append (hhead : ∀ c ∈ (front ++ text).head?, isEdge c = false)
    (hlast : front.getLast?.any isEdge = false) :
    cleaned (front ++ text) = (front.filter fun c => !isBreak c) ++ kept text := by
  rw [cleaned_eq, dropWhile_eq_self hhead, kept_append hlast]

/-- Blanks at the start of a text count behind others, apart from line breaks. -/
theorem kept_eq_append_cleaned (h : cleaned text ≠ []) :
    ∃ blanks, (∀ c ∈ blanks, isEdge c = true) ∧ kept text = blanks ++ cleaned text := by
  have hne : (text.dropWhile isEdge).reverse.dropWhile isEdge ≠ [] := by
    intro hnil
    rw [cleaned, hnil] at h
    exact h rfl
  have hkept : kept (text.takeWhile isEdge ++ text.dropWhile isEdge) =
      ((text.takeWhile isEdge).filter fun c => !isBreak c) ++ cleaned text := by
    rw [kept, List.reverse_append, List.dropWhile_append, if_neg (by simpa using hne),
      List.reverse_append, List.reverse_reverse, List.filter_append, cleaned]
  rw [List.takeWhile_append_dropWhile] at hkept
  exact ⟨_, fun c hmem => List.mem_takeWhile_imp (List.mem_filter.mp hmem).1, hkept⟩

/-- A text without blanks and control characters counts as it stands. -/
theorem kept_eq_self (h : ∀ c ∈ text, isEdge c = false) : kept text = text := by
  have hbreak : ∀ c ∈ text, (!isBreak c) = true := by
    intro c hmem
    have hedge := h c hmem
    rw [Bool.not_eq_true']
    by_contra hnot
    have hcases : (c = '\t' ∨ c = '\n') ∨ c = '\r' := by
      simpa only [isBreak, Bool.not_eq_false, Bool.or_eq_true, decide_eq_true_eq] using hnot
    rcases hcases with (rfl | rfl) | rfl <;> cases hedge
  rw [kept, dropWhile_eq_self fun c hmem =>
    h c (List.mem_reverse.mp (List.mem_of_mem_head? hmem)), List.reverse_reverse]
  exact List.filter_eq_self.mpr hbreak

theorem cleaned_eq_self (h : ∀ c ∈ text, isEdge c = false) : cleaned text = text := by
  rw [cleaned_eq, dropWhile_eq_self fun c hmem => h c (List.mem_of_mem_head? hmem),
    kept_eq_self h]

/-! ### Hosts of the web -/

/-- What a text names as a host, up to where its name and password end. -/
def authority (text : List Char) : List Char :=
  text.takeWhile fun c => !SchemeKind.web.isEnd c

/-- The host that a text stands for behind the slashes of an address of the web. -/
def webHost? (text : List Char) : Option Host :=
  (host? .web text).join

theorem webHost?_eq (text : List Char) :
    webHost? text = (pastUser? .web text).bind fun (_, rest) =>
      if numberFits (cutHost .web false rest).2 then Host.ofDomain? (cutHost .web false rest).1
      else none := by
  rw [webHost?, host?]
  cases pastUser? .web text with
  | none => rfl
  | some found =>
    obtain ⟨hasUser, rest⟩ := found
    simp only [Option.bind_eq_bind, Option.bind_some]
    cases numberFits (cutHost .web false rest).2 with
    | false => rfl
    | true => cases Host.ofDomain? (cutHost .web false rest).1 <;> rfl

/-- Without an `@` all of the text up to its end is the host, and a number. -/
theorem webHost?_of_notMem (h : '@' ∉ authority text) :
    webHost? text =
      if numberFits (cutHost .web false text).2 then Host.ofDomain? (cutHost .web false text).1
      else none := by
  rw [webHost?_eq, pastUser?]
  dsimp only
  rw [show (text.takeWhile fun c => !SchemeKind.web.isEnd c) = authority text from rfl,
    Text.cutAtLast?_of_notMem h]
  rfl

/-- Only what stands behind the last `@` is the host. -/
theorem webHost?_append (hfront : ∀ c ∈ front, SchemeKind.web.isEnd c = false) (hne : front ≠ [])
    (hname : '@' ∉ authority name) : webHost? (front ++ '@' :: name) = webHost? name := by
  have hauthority : (front ++ '@' :: name).takeWhile (fun c => !SchemeKind.web.isEnd c) =
      front ++ '@' :: authority name := by
    rw [List.takeWhile_append_of_pos fun c hmem => by rw [hfront c hmem]; rfl,
      List.takeWhile_cons_of_pos (by decide)]
    rfl
  have hdrop : (front ++ '@' :: name).drop (front.length + 1) = name := by
    rw [List.drop_append, List.drop_eq_nil_of_le (Nat.le_succ _), Nat.add_sub_cancel_left]
    rfl
  have hempty : front.isEmpty = false := by simpa using hne
  rw [webHost?_of_notMem hname, webHost?_eq, pastUser?]
  dsimp only
  rw [hauthority, Text.cutAtLast?_append front hname]
  dsimp only
  rw [hdrop, hempty, if_neg (by simp)]
  rfl

/-- The characters that end a host or set off its parts. -/
def marks : List Char := ['/', '?', '#', '\\', ':', '[', ']', '@']

/-- Whether a text has none of the characters that end a host or set off its parts. -/
def IsPlain (text : List Char) : Prop :=
  ∀ c ∈ text, c ∉ marks

instance (text : List Char) : Decidable (IsPlain text) :=
  List.decidableBAll (fun c => c ∉ marks) text

theorem isPlain_of {p : Char → Bool} (hmarks : marks.any p = false)
    (h : ∀ c ∈ text, p c = true) : IsPlain text :=
  fun c hmem hmark => List.any_eq_false.mp hmarks c hmark (h c hmem)

theorem isEnd_of_notMem {c : Char} (h : c ∉ marks) : SchemeKind.web.isEnd c = false := by
  by_contra hnot
  refine h ?_
  simp only [SchemeKind.isEnd, Bool.not_eq_false, Bool.or_eq_true, decide_eq_true_eq,
    Bool.and_eq_true] at hnot
  rcases hnot with ((rfl | rfl) | rfl) | ⟨rfl, -⟩ <;> decide

theorem isSlash_of_notMem {c : Char} (h : c ∉ marks) : isSlash c = false := by
  by_contra hnot
  refine h ?_
  simp only [isSlash, Bool.not_eq_false, Bool.or_eq_true, decide_eq_true_eq] at hnot
  rcases hnot with rfl | rfl <;> decide

theorem dropWhile_isSlash_cons {first : Char} (h : first ∉ marks) :
    (first :: rest).dropWhile isSlash = first :: rest :=
  List.dropWhile_cons_of_neg (by simp [isSlash_of_notMem h])

/-- The host goes on through what is plain. -/
theorem cutHost_append (h : IsPlain name) :
    cutHost .web false (name ++ rest) =
      (name ++ (cutHost .web false rest).1, (cutHost .web false rest).2) := by
  induction name with
  | nil => rfl
  | cons c name ih =>
    have hmark : c ∉ marks := h c List.mem_cons_self
    -- the character does not end the host, nor does a port begin
    have hgoes : ¬ (SchemeKind.web.isEnd c = true ∨ c = ':' ∧ (!false) = true) := by
      rw [isEnd_of_notMem hmark]
      rintro (hfalse | ⟨rfl, -⟩)
      · cases hfalse
      · exact hmark (by decide)
    -- and it is no bracket
    have hstate : decide (c = '[' ∨ c ≠ ']' ∧ false = true) = false := by
      refine decide_eq_false ?_
      rintro (rfl | ⟨-, hfalse⟩)
      · exact hmark (by decide)
      · cases hfalse
    rw [List.cons_append, cutHost, if_neg hgoes, hstate,
      ih fun d hmem => h d (List.mem_cons_of_mem _ hmem)]
    rfl

theorem authority_append (h : IsPlain name) :
    authority (name ++ rest) = name ++ authority rest := by
  rw [authority, List.takeWhile_append_of_pos fun c hmem => by rw [isEnd_of_notMem (h c hmem)]; rfl]
  rfl

/-- A plain text is a host, and nothing else. -/
theorem webHost?_of_isPlain (h : IsPlain name) : webHost? name = Host.ofDomain? name := by
  have hcut : cutHost .web false name = (name, []) := by
    simpa [cutHost] using @cutHost_append name [] h
  have hmem : '@' ∉ authority name := fun hmem =>
    h _ ((List.takeWhile_prefix _).subset hmem) (by decide)
  rw [webHost?_of_notMem hmem, hcut]
  rfl

/-- A colon ends the host. -/
theorem webHost?_append_colon (h : IsPlain name) (hrest : '@' ∉ authority (':' :: rest)) :
    webHost? (name ++ ':' :: rest) =
      if numberFits (':' :: rest) then Host.ofDomain? name else none := by
  have hmem : '@' ∉ authority (name ++ ':' :: rest) := by
    rw [authority_append h, List.mem_append]
    exact not_or_intro (fun hmem => h _ hmem (by decide)) hrest
  have hcolon : cutHost .web false (':' :: rest) = ([], ':' :: rest) := by
    rw [cutHost, if_pos (.inr ⟨rfl, rfl⟩)]
  rw [webHost?_of_notMem hmem, cutHost_append h, hcolon, List.append_nil]

/-! ### The second reading -/

/-- The second reading of a text. -/
theorem host?_assumed (text : List Char) :
    (read? (assumedScheme ++ text)).bind (·.host) =
      webHost? ((kept text).dropWhile isSlash) := by
  have hcleaned : cleaned (assumedScheme ++ text) = assumedScheme ++ kept text := by
    have hhead : ∀ c ∈ (assumedScheme ++ text).head?, isEdge c = false := by
      intro c hmem
      obtain rfl : 'h' = c := Option.some.inj hmem
      decide
    exact cleaned_append hhead (by decide)
  have hcut : cutScheme? (assumedScheme ++ kept text) =
      some ("https".toList, '/' :: '/' :: kept text) := rfl
  rw [read?, hcleaned, hcut]
  show ((hostAfter? .web ('/' :: '/' :: kept text)).bind _).bind _ = _
  rw [hostAfter?, List.dropWhile_cons_of_pos (by decide), List.dropWhile_cons_of_pos (by decide),
    webHost?]
  cases host? .web ((kept text).dropWhile isSlash) <;> rfl

/-- A text without a colon has no scheme. -/
theorem read?_of_notMem_colon (h : ':' ∉ text) : read? text = none := by
  have hcleaned : ':' ∉ cleaned text := by
    intro hmem
    have hmem := (List.mem_filter.mp hmem).1
    have hmem := List.mem_reverse.mp ((List.dropWhile_suffix _).subset (List.mem_reverse.mp hmem))
    exact h ((List.dropWhile_suffix _).subset hmem)
  -- without a colon there is no scheme to be cut off
  have hcut : cutScheme? (cleaned text) = none := by
    unfold cutScheme?
    split
    · split
      · next rest heq =>
        have hmem : ':' ∈ (cleaned text).dropWhile isSchemeChar := by
          rw [heq]
          exact List.mem_cons_self
        exact absurd ((List.dropWhile_suffix _).subset hmem) hcleaned
      · rfl
    · rfl
  rw [read?, hcut]
  rfl

end Address

/-- A text that is no address, or one without a host, is read with the assumed scheme. -/
theorem hostOf_of_hostless {raw : String}
    (h : (Address.read? raw.toList).bind (·.host) = none) :
    hostOf raw = (Address.webHost? ((Address.kept raw.toList).dropWhile Address.isSlash)).map
      Host.write := by
  rw [hostOf]
  dsimp only
  rw [h, Option.none_or, Address.host?_assumed]

end NewsFeed
