/-
Hosts as keys.

Visits are counted under the hosts of a history in their written form, and looked up under the host
of a publisher, which is read from a text of its own.  A publisher that gives a host as it was
counted is found, since the written form of a host is read again as that host (`hostOf_write`).

That fails only where a host is not canonical.  Outside of the web a host is a name of which not
even the capital letters are changed, and as the host of a publisher it is read as one of the web;
and a domain may have labels that are too long to be read.

* `hostOf_write`, `hostOf_name` — hosts of the web, and names outside of it;
* `hosts_are_join_keys` — which hosts are keys, and what is counted under them.
-/
import NewsFeed.Proofs.Canonical
import NewsFeed.Proofs.Misreadings
import NewsFeed.Proofs.Shares

namespace NewsFeed

open Address Binary64

namespace Address

/-! ### Hosts in brackets -/

theorem cutHost_inBrackets {text : List Char}
    (h : ∀ c ∈ text, SchemeKind.web.isEnd c = false ∧ c ≠ ']') :
    cutHost .web true (text ++ [']']) = (text ++ [']'], []) := by
  induction text with
  | nil => rfl
  | cons c rest ih =>
    obtain ⟨⟨hend, hclosing⟩, hrest⟩ := List.forall_mem_cons.mp h
    have hgoes : ¬ (SchemeKind.web.isEnd c = true ∨ c = ':' ∧ (!true) = true) := by
      simp [hend]
    have hstate : decide (c = '[' ∨ c ≠ ']' ∧ true = true) = true := by
      simp [hclosing]
    rw [List.cons_append, cutHost, if_neg hgoes, hstate, ih hrest]

/-- A host in brackets goes on up to the closing one. -/
theorem cutHost_brackets {text : List Char}
    (h : ∀ c ∈ text, SchemeKind.web.isEnd c = false ∧ c ≠ ']') :
    cutHost .web false ('[' :: (text ++ [']'])) = ('[' :: (text ++ [']']), []) := by
  have hstate : decide ('[' = '[' ∨ '[' ≠ ']' ∧ false = true) = true := rfl
  rw [cutHost, if_neg (by decide), hstate, cutHost_inBrackets h]

/-- Hexadecimal digits are no blanks and end nothing, and are digits as capital letters too. -/
theorem of_isSome_hexDigit? {c : Char} (h : (Text.hexDigit? c).isSome = true) :
    isEdge c = false ∧ c ∉ marks ∧ (Text.hexDigit? c.toUpper).isSome = true := by
  have hascii : Host.isAscii c = true := by
    refine decide_eq_true ?_
    unfold Text.hexDigit? at h
    split_ifs at h with hdecimal hsmall hcapital
    · exact Nat.lt_of_le_of_lt hdecimal.2 (by decide)
    · exact Nat.lt_of_le_of_lt hsmall.2 (by decide)
    · exact Nat.lt_of_le_of_lt hcapital.2 (by decide)
    · cases h
  exact Host.of_isAscii (p := fun c => (Text.hexDigit? c).isSome = true →
    isEdge c = false ∧ c ∉ marks ∧ (Text.hexDigit? c.toUpper).isSome = true)
    (by decide +kernel) hascii h

end Address

/-! ### Hosts of the web -/

/-- What is made of characters that are allowed in a domain is plain and has no blanks. -/
theorem isPlain_of_isForbidden {text : List Char} (h : ∀ c ∈ text, Host.isForbidden c = false) :
    IsPlain text ∧ ∀ c ∈ text, isEdge c = false := by
  refine ⟨fun c hc hmark => ?_, fun c hc => ?_⟩
  · have hmarks : ∀ c ∈ marks, Host.isForbidden c = true := by
      simp [marks, Host.isForbidden]
    have hforbidden := hmarks c hmark
    rw [h c hc] at hforbidden
    cases hforbidden
  · have hallowed := h c hc
    rw [Host.isForbidden, Bool.or_eq_false_iff, Bool.or_eq_false_iff] at hallowed
    exact hallowed.1.1

theorem hostOf_of_isForbidden {key : String}
    (h : ∀ c ∈ key.toList, Host.isForbidden c = false) :
    hostOf key = (Host.ofDomain? key.toList).map Host.write := by
  obtain ⟨hplain, hedge⟩ := isPlain_of_isForbidden h
  rw [hostOf_of_isPlain hplain, kept_eq_self hedge, webHost?_of_isPlain hplain]

/-- A text in brackets is no address, and is read as a host. -/
theorem hostOf_ipv6 (address : Host.Ipv6) :
    hostOf (Host.ipv6 address).write =
      (Host.ofDomain? (Host.ipv6 address).write.toList).map Host.write := by
  -- hexadecimal digits and colons end neither the host nor the brackets
  have hinner : ∀ c ∈ address.write.toList, SchemeKind.web.isEnd c = false ∧ c ≠ ']' ∧
      c ≠ '@' ∧ isEdge c = false := by
    intro c hc
    rcases Host.Ipv6.mem_write hc with rfl | hhex
    · decide
    · obtain ⟨hedge, hmark, -⟩ := of_isSome_hexDigit? hhex
      refine ⟨isEnd_of_notMem hmark, ?_, ?_, hedge⟩
      all_goals
        rintro rfl
        exact hmark (by decide)
  have hmem : ∀ c ∈ (Host.ipv6 address).write.toList,
      c = '[' ∨ c ∈ address.write.toList ∨ c = ']' := by
    intro c hc
    rw [Host.toList_write_ipv6] at hc
    simpa using hc
  have hedge : ∀ c ∈ (Host.ipv6 address).write.toList, isEdge c = false := by
    intro c hc
    rcases hmem c hc with rfl | hc | rfl
    · decide
    · exact (hinner c hc).2.2.2
    · decide
  have hat : '@' ∉ authority (Host.ipv6 address).write.toList := by
    intro hc
    rcases hmem '@' ((List.takeWhile_prefix _).subset hc) with heq | hc | heq
    · cases heq
    · exact (hinner '@' hc).2.2.1 rfl
    · cases heq
  -- without a scheme it is no address, so it is read again behind `https://`
  have hread : read? (Host.ipv6 address).write.toList = none := by
    rw [read?, cleaned_eq_self hedge, Host.toList_write_ipv6]
    rfl
  have hslash : (Host.ipv6 address).write.toList.dropWhile isSlash =
      (Host.ipv6 address).write.toList := by
    rw [Host.toList_write_ipv6]
    rfl
  have hcut := cutHost_brackets fun c hc => ⟨(hinner c hc).1, (hinner c hc).2.1⟩
  rw [← Host.toList_write_ipv6] at hcut
  rw [hostOf_of_hostless (by rw [hread]; rfl), kept_eq_self hedge, hslash,
    webHost?_of_notMem hat, hcut]
  rfl

/-- A host of the web is read as one of the web in its written form. -/
theorem hostOf_write {text : List Char} {host : Host} (h : Host.ofDomain? text = some host) :
    hostOf host.write = (Host.ofDomain? host.write.toList).map Host.write := by
  rcases Host.ofDomain?_cases h with ⟨address, inner, -, rfl⟩ | ⟨labels, hlabels, hwrite, -⟩
  · exact hostOf_ipv6 address
  · refine hostOf_of_isForbidden fun c hc => ?_
    rw [hwrite] at hc
    exact (hlabels.mem_joinLabels hc).2.2

/-! ### Names outside of the web -/

theorem mem_encodeByte {b : UInt8} {c : Char} (hc : c ∈ Text.Percent.encodeByte b) :
    c = '%' ∨ (Text.hexDigit? c).isSome = true := by
  rw [Text.Percent.encodeByte, Text.hex, String.toList_ofList] at hc
  refine (List.mem_cons.mp hc).imp_right fun hc => ?_
  have hdigits : ∀ c ∈ (Nat.toDigits 16 b.toNat).map Char.toUpper,
      (Text.hexDigit? c).isSome = true :=
    List.forall_mem_map.mpr fun c hc =>
      (of_isSome_hexDigit? (Text.isSome_hexDigit?_of_mem_toDigits hc)).2.2
  split at hc
  · rcases List.mem_cons.mp hc with rfl | hc
    · decide
    · exact hdigits c hc
  · exact hdigits c hc

theorem mem_encodeControls {name : List Char} (h : name.any Host.isForbiddenInName = false) :
    ∀ c ∈ Text.Percent.encodeControls name, c ∉ marks ∧ isEdge c = false := by
  intro c hc
  obtain ⟨d, hd, hc⟩ := List.mem_flatMap.mp hc
  split at hc
  · -- an encoded character is made of percent signs and hexadecimal digits
    obtain ⟨b, -, hc⟩ := List.mem_flatMap.mp hc
    rcases mem_encodeByte hc with rfl | hhex
    · decide
    · exact ⟨(of_isSome_hexDigit? hhex).2.1, (of_isSome_hexDigit? hhex).1⟩
  · next hplain =>
    obtain rfl := List.mem_singleton.mp hc
    -- the others stand for themselves, and the forbidden ones among them were refused
    have hallowed := List.any_eq_false.mp h c hd
    have hmarks : ∀ c ∈ marks, Host.isForbiddenInName c = true := by
      simp [marks, Host.isForbiddenInName]
    refine ⟨fun hmark => hallowed (hmarks c hmark), decide_eq_false fun hedge => hallowed ?_⟩
    have hblank : c.toNat = ' '.toNat := by
      show c.toNat = 32
      omega
    obtain rfl := Char.toNat_inj.mp hblank
    simp [Host.isForbiddenInName]

/-- A name outside of the web is read as a host of the web in its written form. -/
theorem hostOf_name {name : List Char} (h : name.any Host.isForbiddenInName = false) :
    hostOf (Host.name (Text.Percent.encodeControls name)).write =
      (Host.ofDomain? (Host.name (Text.Percent.encodeControls name)).write.toList).map
        Host.write := by
  have hmem := mem_encodeControls h
  have hwrite : (Host.name (Text.Percent.encodeControls name)).write.toList =
      Text.Percent.encodeControls name := String.toList_ofList
  rw [hostOf_of_isPlain (by rw [hwrite]; exact fun c hc => (hmem c hc).1), hwrite,
    kept_eq_self fun c hc => (hmem c hc).2, webHost?_of_isPlain fun c hc => (hmem c hc).1]

/-! ### The host of an address -/

theorem host?_cases {kind : SchemeKind} {text : List Char} {host : Host}
    (h : host? kind text = some (some host)) :
    (∃ text, Host.ofDomain? text = some host) ∨ ∃ text, Host.ofName? text = some host := by
  obtain ⟨⟨hasUser, rest⟩, -, h⟩ := Option.bind_eq_some_iff.mp h
  dsimp only at h
  split at h
  · cases h
  · split at h
    · split at h
      · split at h <;> cases h
      · obtain ⟨found, hfound, h⟩ := Option.bind_eq_some_iff.mp h
        obtain rfl := Option.some.inj (Option.some.inj h)
        exact .inr ⟨_, hfound⟩
    · obtain ⟨found, hfound, h⟩ := Option.bind_eq_some_iff.mp h
      obtain rfl := Option.some.inj (Option.some.inj h)
      exact .inl ⟨_, hfound⟩

theorem fileHost?_cases {text : List Char} {host : Host} (h : fileHost? text = some (some host)) :
    ∃ text, Host.ofDomain? text = some host := by
  unfold fileHost? at h
  split at h
  · split at h
    · dsimp only at h
      split at h
      · cases h
      · obtain ⟨found, hfound, h⟩ := Option.bind_eq_some_iff.mp h
        split at h
        · cases h
        · split at h
          · cases h
          · obtain rfl := Option.some.inj (Option.some.inj h)
            exact ⟨_, hfound⟩
    · cases h
  · cases h

theorem ofName?_cases {text : List Char} {host : Host} (h : Host.ofName? text = some host) :
    Host.ofDomain? text = some host ∨
      text.any Host.isForbiddenInName = false ∧
        host = .name (Text.Percent.encodeControls text) := by
  unfold Host.ofName? at h
  split at h
  · next hhead =>
    rw [Host.ofDomain?, if_pos hhead]
    exact .inl h
  · split at h
    · cases h
    · next hallowed => exact .inr ⟨by simpa using hallowed, (Option.some.inj h).symm⟩

/-- The host of an address is one of the web, or a name. -/
theorem host_cases {text : List Char} {host : Host} (h : (read? text).bind (·.host) = some host) :
    (∃ text, Host.ofDomain? text = some host) ∨
      ∃ name, name.any Host.isForbiddenInName = false ∧
        host = .name (Text.Percent.encodeControls name) := by
  obtain ⟨address, haddress, hhost⟩ := Option.bind_eq_some_iff.mp h
  obtain ⟨⟨scheme, rest⟩, -, haddress⟩ := Option.bind_eq_some_iff.mp haddress
  obtain ⟨found, hfound, haddress⟩ := Option.bind_eq_some_iff.mp haddress
  obtain rfl := Option.some.inj haddress
  obtain rfl : found = some host := hhost
  have hcases : (∃ text, Host.ofDomain? text = some host) ∨
      ∃ text, Host.ofName? text = some host := by
    -- the kind of the scheme decides how the host is read
    generalize SchemeKind.ofScheme scheme = kind at hfound
    cases kind with
    | web => exact host?_cases hfound
    | file => exact .inl (fileHost?_cases hfound)
    | other =>
      unfold hostAfter? at hfound
      dsimp only at hfound
      split at hfound
      · exact host?_cases hfound
      · cases hfound
  rcases hcases with hdomain | ⟨name, hname⟩
  · exact .inl hdomain
  · exact (ofName?_cases hname).imp (fun hdomain => ⟨name, hdomain⟩) fun hname => ⟨name, hname⟩

theorem webHost?_cases {text : List Char} {host : Host} (h : webHost? text = some host) :
    ∃ text, Host.ofDomain? text = some host := by
  rw [webHost?_eq] at h
  obtain ⟨⟨hasUser, rest⟩, -, h⟩ := Option.bind_eq_some_iff.mp h
  dsimp only at h
  split at h
  · exact ⟨_, h⟩
  · cases h

/-! ### Keys -/

/-- Whether a publisher has a number of visits in derived signals: it is the number that its share
is made of, in the signal of an article that it has published, and that share is not 0. -/
structure Derivation.IsCredited (derivation : Derivation) (publisher : Publisher) (visits : ℕ) :
    Prop where
  visitsTo : derivation.visitsTo publisher = visits
  share : ∀ articles signals, derivation.signals? articles = some signals →
    ∀ address article, derivation.lastKnown? address articles = some (article, publisher) →
      ⟨address⟩ ∉ Channel.listed derivation.publishers derivation.settings.locale →
        ∃ signal, signals.get? address = some signal ∧ 0.0 < signal.sourceVisits ∧
          number signal.sourceVisits =
            rounded ((visits / derivation.publisherTotal : ℝ) : ℝ)

theorem Derivation.isCredited {derivation : Derivation} {publisher : Publisher}
    {history : List String} {raw key : String} (hraw : hostOf raw = some key)
    (hmem : raw ∈ history) (hkey : hostOf key = some key)
    (hvisits : derivation.visits = visitsByHost history) (hsite : publisher.siteUrl = key) :
    derivation.IsCredited publisher (min (entriesWith history key) mostVisits) := by
  have hvisitsTo : derivation.visitsTo publisher = min (entriesWith history key) mostVisits := by
    rw [visitsTo, hvisits, visits_visitsByHost, hsite, hkey]
    rfl
  -- the entry is one of those that are counted, so the share is positive
  have hpos : 0 < entriesWith history key :=
    List.countP_pos_iff.mpr ⟨raw, hmem, by simpa using hraw⟩
  refine ⟨hvisitsTo, fun articles signals h address article hlast hlisted => ?_⟩
  obtain ⟨signal, hget, hshare⟩ := (hasShares h).article address article publisher hlast hlisted
  have htotal : 0 < derivation.totals.publishers.toNat :=
    derivation.toNat_totals_publishers ▸ derivation.publisherTotal_pos
  have hshared : 0.0 < share (publisher.visits derivation.visits) derivation.totals.publishers := by
    rw [share, ratio_pos_iff htotal]
    show 0 < derivation.visitsTo publisher
    rw [hvisitsTo]
    exact lt_min hpos (by decide)
  have hnumber := (lt_iff.mp hshared).2.2
  rw [derivation.share_publisher, ← hshare] at hnumber
  have hnan := (nonneg_iff.mp ((hasShares h).unit address signal hget).1.1).1
  refine ⟨signal, hget, lt_iff.mpr ⟨isNaN_zero, hnan, hnumber⟩, ?_⟩
  rw [hshare, hvisitsTo]

/-- **Hosts are join keys.**  A host that has been found in a text is read as a host of the web in
its written form.  Unless it is a name, from an address outside of the web, it is its own host then,
or it has no host if a label is in Punycode of more than two thousand characters.  A publisher that
gives a host as its site which is its own host is credited with the entries that have this host, up
to the greatest count. -/
theorem hosts_are_join_keys (raw key : String) (h : hostOf raw = some key) :
    hostOf key = (Host.ofDomain? key.toList).map Host.write ∧
    ((∀ name, (read? raw.toList).bind (·.host) ≠ some (.name name)) →
      hostOf key = if Host.IsLegible key.toList then some key else none) ∧
    (hostOf key = some key →
      ∀ (derivation : Derivation) (publisher : Publisher) (history : List String),
        raw ∈ history → derivation.visits = visitsByHost history → publisher.siteUrl = key →
          derivation.IsCredited publisher (min (entriesWith history key) mostVisits)) := by
  have hfound := h
  rw [hostOf] at hfound
  dsimp only at hfound
  rw [host?_assumed] at hfound
  obtain ⟨host, hhost, rfl⟩ := Option.map_eq_some_iff.mp hfound
  have hcases : (∃ text, Host.ofDomain? text = some host) ∨
      ∃ name, name.any Host.isForbiddenInName = false ∧
        host = .name (Text.Percent.encodeControls name) ∧
        (read? raw.toList).bind (·.host) = some host := by
    -- the host is the one of the entry itself or the one behind `https://`; only the former can be
    -- a name
    rcases Option.or_eq_some_iff.mp hhost with hown | ⟨-, hassumed⟩
    · rcases host_cases hown with hdomain | ⟨name, hallowed, hname⟩
      · exact .inl hdomain
      · exact .inr ⟨name, hallowed, hname, hown⟩
    · exact .inl (webHost?_cases hassumed)
  refine ⟨?_, fun hnot => ?_, fun hkey derivation publisher history hmem hvisits hsite =>
    Derivation.isCredited h hmem hkey hvisits hsite⟩
  · rcases hcases with ⟨text, hdomain⟩ | ⟨name, hallowed, rfl, -⟩
    · exact hostOf_write hdomain
    · exact hostOf_name hallowed
  · rcases hcases with ⟨text, hdomain⟩ | ⟨name, -, rfl, hown⟩
    · rw [hostOf_write hdomain, Host.ofDomain?_write hdomain]
      split <;> rfl
    · -- names are what the condition excludes
      exact absurd hown (hnot _)

/-- What is known of a user who has read a site at two addresses. -/
def twiceRead : Derivation where
  settings := {}
  now := ⟨20089, 61200, 125000000, by decide, by decide, by decide, by decide⟩
  publishers := Dict.ofList [("p", ⟨"p", "p", "news.example", [], .notModified⟩)]
  visits := visitsByHost ["HTTPS://News.Example:443/a", "news.example"]
  subscriptions := {}

theorem hosts_are_join_keys_twiceRead :
    hostOf "news.example" = some "news.example" ∧
      twiceRead.IsCredited ⟨"p", "p", "news.example", [], .notModified⟩ 2 := by
  have hraw : hostOf "HTTPS://News.Example:443/a" = some "news.example" := by decide +kernel
  obtain ⟨-, hhost, hcredited⟩ := hosts_are_join_keys _ _ hraw
  have hkey : hostOf "news.example" = some "news.example" := by
    have hown : (read? "HTTPS://News.Example:443/a".toList).bind (·.host) =
        some (.domain "news.example".toList) := by decide +kernel
    rw [hhost fun name => by rw [hown]; simp]
    exact if_pos (by decide +kernel)
  have hentries : min (entriesWith ["HTTPS://News.Example:443/a", "news.example"] "news.example")
      mostVisits = 2 := by decide +kernel
  have htwice := hcredited hkey twiceRead ⟨"p", "p", "news.example", [], .notModified⟩ _
    List.mem_cons_self rfl rfl
  rw [hentries] at htwice
  exact ⟨hkey, htwice⟩

/-- A name outside of the web keeps its capital letters, but not as the host of a publisher. -/
theorem capital_name_is_no_key :
    ¬ ∀ raw key, hostOf raw = some key → hostOf key = some key := by
  intro h
  have hname : hostOf "foo://Bar" = some "Bar" := by decide +kernel
  have hsite : hostOf "Bar" = some "bar" := by decide +kernel
  rw [h _ _ hname] at hsite
  exact absurd hsite (by decide)

end NewsFeed
