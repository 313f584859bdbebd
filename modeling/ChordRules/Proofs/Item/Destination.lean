import ChordRules.Item.Request
import ChordRules.Proofs.Text.Percent
import Mathlib.Data.List.TakeWhile

/-! # Where the address of an item leads

The name of an item is one segment at the end of its address. Scheme and authority are read off what
stands before it, and behind them every character of a segment is accepted: so the name decides
neither whether the address is accepted nor where a request goes (`Destination.ofUrl_itemUrl`). -/
namespace ChordRules

def itemFront (base : String) : List Char := base.toList ++ "/rest/items/".toList

theorem toList_itemUrl (base item : String) :
    (itemUrl base item).toList = itemFront base ++ (percentEncode item).toList := by
  rw [itemUrl, String.toList_append, String.toList_append, itemFront]

/-- The address of an item is the base, a fixed path and one segment that holds no marks, in which
every percent sign begins an escape, and which is decoded to the bytes of the name; so on one server
different items have different addresses. -/
theorem itemUrl_segment (base : String) :
    (∀ item, ∃ e : String, itemUrl base item = base ++ "/rest/items/" ++ e ∧
      (∀ c ∈ e.toList, IsSegmentChar c) ∧
      (∀ front rest, e.toList = front ++ '%' :: rest → ∃ high low rest',
        rest = high :: low :: rest' ∧ (hexDigitValue? high).isSome ∧ (hexDigitValue? low).isSome) ∧
      percentDecode? e.toList = some (utf8Bytes item)) ∧
    ∀ item₁ item₂, item₁ ≠ item₂ → itemUrl base item₁ ≠ itemUrl base item₂ := by
  constructor
  · intro item
    have hdecode := percentDecode?_percentEncode item
    refine ⟨percentEncode item, rfl, fun c => isSegmentChar_of_mem_percentEncode, ?_, hdecode⟩
    exact fun front rest => escape_of_percentDecode? (by rw [hdecode, Option.isSome_some])
  · intro item₁ item₂ hne heq
    have hlist := congrArg String.toList heq
    rw [toList_itemUrl, toList_itemUrl] at hlist
    exact hne (percentEncode_injective (String.toList_inj.1 (List.append_cancel_left hlist)))

/-- So it is with a name that holds a blank, a percent sign, a slash and a letter of two bytes. -/
theorem itemUrl_segment_accented :
    ∃ e : String, itemUrl "http://home" "Küche 5%/a" = "http://home/rest/items/" ++ e ∧
      e = "K%C3%BCche%205%25%2Fa" ∧ (∀ c ∈ e.toList, IsSegmentChar c) ∧
      percentDecode? e.toList = some (utf8Bytes "Küche 5%/a") ∧
      itemUrl "http://home" "Küche 5%/a" ≠ itemUrl "http://home" "Küche 5%25/a" := by
  obtain ⟨hsegment, hne⟩ := itemUrl_segment "http://home"
  obtain ⟨e, hurl, hchars, -, hdecode⟩ := hsegment "Küche 5%/a"
  have hfront : "http://home" ++ "/rest/items/" = "http://home/rest/items/" := by decide
  have he : itemUrl "http://home" "Küche 5%/a" = "http://home/rest/items/K%C3%BCche%205%25%2Fa" := by
    decide +kernel
  rw [hfront] at hurl
  refine ⟨e, hurl, ?_, hchars, hdecode, hne _ _ (by decide)⟩
  have hsame : "http://home/rest/items/" ++ e =
      "http://home/rest/items/" ++ "K%C3%BCche%205%25%2Fa" := hurl.symm.trans he
  have hlist := congrArg String.toList hsame
  rw [String.toList_append, String.toList_append] at hlist
  exact String.toList_inj.1 (List.append_cancel_left hlist)

/-- A character of segments is none of the marks that are refused or end something. -/
theorem IsSegmentChar.passes {c : Char} (h : IsSegmentChar c) {marks : List Char}
    (hsub : ∀ d ∈ marks, d ∈ ['"', '#', '/', '<', '>', '?', '`', '{', '}']) :
    (isVisibleChar c && !marks.contains c) = true := by
  obtain ⟨hlow, hhigh, hmarks⟩ := h
  have hvisible : isVisibleChar c = true := by
    rw [isVisibleChar, Bool.and_eq_true, decide_eq_true_eq, bne_iff_ne]
    exact ⟨hlow, by omega⟩
  have hno : marks.contains c = false := by
    rw [List.contains_eq_mem, decide_eq_false_iff_not]
    exact fun hc => hmarks (hsub c hc)
  rw [hvisible, hno]
  rfl

/-- What may stand in a segment may stand in a target. -/
theorem IsSegmentChar.isTargetChar {c : Char} (h : IsSegmentChar c) : isTargetChar c = true :=
  h.passes (by simp)

theorem IsSegmentChar.isQueryChar {c : Char} (h : IsSegmentChar c) : isQueryChar c = true :=
  h.passes (by simp)

/-- Where a text has a character that is not taken, what follows the text does not change what is
taken of it. -/
theorem takeWhile_stops {p : Char → Bool} {c : Char} {cs : List Char} (hc : c ∈ cs)
    (hp : p c = false) : ∃ front d back,
      ∀ es, (cs ++ es).takeWhile p = front ∧ (cs ++ es).dropWhile p = d :: back ++ es := by
  induction cs with
  | nil => cases hc
  | cons d cs ih =>
    by_cases hd : p d = true
    · have hmem : c ∈ cs := by
        rcases List.mem_cons.1 hc with rfl | hc
        · rw [hp] at hd
          cases hd
        · exact hc
      obtain ⟨front, d', back, hscan⟩ := ih hmem
      refine ⟨d :: front, d', back, fun es => ?_⟩
      rw [List.cons_append, List.takeWhile_cons, List.dropWhile_cons, if_pos hd, if_pos hd,
        (hscan es).1, (hscan es).2]
      exact ⟨rfl, rfl⟩
    · refine ⟨[], d, cs, fun es => ?_⟩
      rw [List.cons_append, List.takeWhile_cons, List.dropWhile_cons, if_neg hd, if_neg hd]
      exact ⟨rfl, rfl⟩

theorem slash_mem_drop {n : Nat} {cs : List Char} (h : n ≤ cs.length) :
    '/' ∈ (cs ++ ['/']).drop n := by
  rw [List.drop_append_of_le_length h]
  exact List.mem_append_right _ List.mem_cons_self

/-- The items of a server lie below one path. -/
theorem itemFront_eq (base : String) :
    itemFront base = base.toList ++ "/rest/items".toList ++ ['/'] := by
  rw [itemFront, List.append_assoc]
  rfl

/-- The longest run of scheme characters ends at the slash behind the base, if not before, so three
characters and one more slash stand between it and the name. -/
theorem exists_schemeRun (base : String) : ∃ name c₁ c₂ c₃ rest, '/' ∈ rest ∧
    ∀ e, (itemFront base ++ e).takeWhile isSchemeChar = name ∧
      (itemFront base ++ e).dropWhile isSchemeChar = c₁ :: c₂ :: c₃ :: (rest ++ e) := by
  obtain ⟨name, c, back, hscan⟩ := takeWhile_stops (p := isSchemeChar)
    (List.mem_append_right base.toList (List.mem_singleton_self '/')) (by decide)
  obtain ⟨c₁, c₂, c₃, rest, hrest⟩ : ∃ c₁ c₂ c₃ rest,
      c :: back ++ "rest/items/".toList = c₁ :: c₂ :: c₃ :: rest := by
    match back with
    | [] | [_] | _ :: _ :: _ => exact ⟨_, _, _, _, rfl⟩
  refine ⟨name, c₁, c₂, c₃, rest, ?_, fun e => ?_⟩
  · have hlong : 3 ≤ (c :: back ++ "rest/items".toList).length := by
      rw [List.length_append]
      exact Nat.le_add_left_of_le (by decide)
    have heq : c :: back ++ "rest/items".toList ++ ['/'] = c₁ :: c₂ :: c₃ :: rest := by
      rw [← hrest, List.append_assoc]
      rfl
    have hmem := slash_mem_drop hlong
    rwa [heq] at hmem
  · have hfront : itemFront base ++ e =
        (base.toList ++ ['/']) ++ ("rest/items/".toList ++ e) := by
      simp [itemFront]
    have hback : c :: back ++ ("rest/items/".toList ++ e) = c₁ :: c₂ :: c₃ :: (rest ++ e) := by
      rw [← List.append_assoc, hrest]
      rfl
    rw [hfront, (hscan _).1, (hscan _).2, hback]
    exact ⟨rfl, rfl⟩

/-- The scheme, if there is one, ends before the name. -/
theorem splitScheme_itemFront (base : String) :
    (∃ fault, ∀ e, splitScheme (itemFront base ++ e) = .error fault) ∨
      (∀ e, splitScheme (itemFront base ++ e) = .ok none) ∨
      ∃ scheme rest, '/' ∈ rest ∧
        ∀ e, splitScheme (itemFront base ++ e) = .ok (some (scheme, rest ++ e)) := by
  have hlong : 11 ≤ (base.toList ++ "/rest/items".toList).length := by
    rw [List.length_append]
    exact Nat.le_add_left 11 _
  have hlength : 12 ≤ (itemFront base).length := by
    rw [itemFront_eq, List.length_append]
    exact Nat.succ_le_succ hlong
  have hlead : ∀ e, (itemFront base ++ e).take 8 = (itemFront base).take 8 := fun e =>
    List.take_append_of_le_length (by omega)
  have hdrop : ∀ n ≤ 11, ∀ e, '/' ∈ (itemFront base).drop n ∧
      (itemFront base ++ e).drop n = (itemFront base).drop n ++ e := by
    intro n hn e
    refine ⟨?_, List.drop_append_of_le_length (by omega)⟩
    rw [itemFront_eq]
    exact slash_mem_drop (by omega)
  by_cases hhttp : "http://".toList.isPrefixOf (((itemFront base).take 8).map lowerAscii) = true
  · refine .inr (.inr ⟨"http", (itemFront base).drop 7, (hdrop 7 (by decide) []).1, fun e => ?_⟩)
    rw [splitScheme, hlead, if_pos hhttp, (hdrop 7 (by decide) e).2]
  by_cases hhttps : "https://".toList.isPrefixOf (((itemFront base).take 8).map lowerAscii) = true
  · refine .inr (.inr ⟨"https", (itemFront base).drop 8, (hdrop 8 (by decide) []).1, fun e => ?_⟩)
    rw [splitScheme, hlead, if_neg hhttp, if_pos hhttps, (hdrop 8 (by decide) e).2]
  obtain ⟨name, c₁, c₂, c₃, rest, hslash, hrun⟩ := exists_schemeRun base
  have hsplit : ∀ e, splitScheme (itemFront base ++ e) =
      if [c₁, c₂, c₃] = [':', '/', '/'] then
        if 64 < name.length then .error .schemeTooLong
        else .ok (some (String.ofList name, rest ++ e))
      else .ok none := by
    intro e
    have hlong : ¬ (itemFront base ++ e).length ≤ 3 := by
      rw [List.length_append]
      omega
    rw [splitScheme, hlead, if_neg hhttp, if_neg hhttps, (hrun e).1, (hrun e).2]
    split
    · next heq =>
      obtain ⟨rfl, rfl, rfl, rfl⟩ : c₁ = ':' ∧ c₂ = '/' ∧ c₃ = '/' ∧ rest ++ e = _ := by
        simpa using heq
      rw [if_neg hlong]
      rfl
    · next hne =>
      rw [if_neg]
      intro heq
      obtain ⟨rfl, rfl, rfl⟩ : c₁ = ':' ∧ c₂ = '/' ∧ c₃ = '/' := by simpa using heq
      exact hne _ rfl
  by_cases hmarks : [c₁, c₂, c₃] = [':', '/', '/']
  · by_cases hlong : 64 < name.length
    · exact .inl ⟨.schemeTooLong, fun e => by rw [hsplit, if_pos hmarks, if_pos hlong]⟩
    · exact .inr (.inr ⟨String.ofList name, rest, hslash, fun e => by
        rw [hsplit, if_pos hmarks, if_neg hlong]⟩)
  · exact .inr (.inl fun e => by rw [hsplit, if_neg hmarks])

/-- Neither the authority nor what is wrong with it depends on what follows the first slash. -/
theorem splitAuthority_append {cs : List Char} (h : '/' ∈ cs) :
    (∃ fault, ∀ e, splitAuthority (cs ++ e) = .error fault) ∨
      ∃ authority rest, rest ≠ [] ∧ ∀ e, splitAuthority (cs ++ e) = .ok (authority, rest ++ e) := by
  obtain ⟨authority, c, rest, hscan⟩ :=
    takeWhile_stops (p := (!endsAuthority ·)) h (by decide)
  have hsplit : ∀ e, splitAuthority (cs ++ e) = (do
      (← authority.foldlM AuthorityScan.step .start).finish
      return (authority, c :: rest ++ e)) := by
    intro e
    rw [splitAuthority, (hscan e).1, (hscan e).2]
  simp only [hsplit]
  cases authority.foldlM AuthorityScan.step .start with
  | error fault => exact .inl ⟨fault, fun _ => rfl⟩
  | ok scan =>
    cases hfinish : scan.finish with
    | error fault => exact .inl ⟨fault, fun e => by simp [bind, Except.bind, hfinish]⟩
    | ok u =>
      exact .inr ⟨authority, c :: rest, List.cons_ne_nil _ _,
        fun e => by simp [bind, Except.bind, hfinish, pure, Except.pure]⟩

/-- A segment at the end of a target does not change whether the target is accepted. -/
theorem checkTarget_append (cs : List Char) :
    (∃ fault, ∀ e, checkTarget (cs ++ e) = .error fault) ∨
      ∀ e, (∀ c ∈ e, IsSegmentChar c) → ∃ target, checkTarget (cs ++ e) = .ok target := by
  by_cases hpath : ∀ c ∈ cs, isTargetChar c = true
  · refine .inr fun e he => ?_
    have hall : (cs ++ e).dropWhile isTargetChar = [] := by
      rw [List.dropWhile_append_of_pos hpath]
      exact List.dropWhile_eq_nil_iff.2 fun c hc => (he c hc).isTargetChar
    rw [checkTarget, hall]
    exact ⟨_, rfl⟩
  obtain ⟨c, hc, hstop⟩ : ∃ c ∈ cs, isTargetChar c = false := by simpa using hpath
  obtain ⟨path, d, rest, hscan⟩ := takeWhile_stops hc hstop
  by_cases hfragment : d = '#'
  · subst hfragment
    refine .inr fun e _ => ⟨path, ?_⟩
    rw [checkTarget, (hscan e).1, (hscan e).2]
    rfl
  by_cases hquestion : d = '?'
  · subst hquestion
    by_cases hquery : ∀ c ∈ rest, isQueryChar c = true
    · refine .inr fun e he => ⟨path ++ '?' :: (rest ++ e).takeWhile isQueryChar, ?_⟩
      have hall : (rest ++ e).dropWhile isQueryChar = [] := by
        rw [List.dropWhile_append_of_pos hquery]
        exact List.dropWhile_eq_nil_iff.2 fun c hc => (he c hc).isQueryChar
      rw [checkTarget, (hscan e).1, (hscan e).2]
      simp only [List.cons_append, hall]
    obtain ⟨c, hc, hstop⟩ : ∃ c ∈ rest, isQueryChar c = false := by simpa using hquery
    obtain ⟨query, d, rest', hscan'⟩ := takeWhile_stops hc hstop
    by_cases hfragment : d = '#'
    · subst hfragment
      refine .inr fun e _ => ⟨path ++ '?' :: query, ?_⟩
      rw [checkTarget, (hscan e).1, (hscan e).2]
      simp only [List.cons_append, (hscan' e).1, (hscan' e).2]
    · refine .inl ⟨.badCharacter, fun e => ?_⟩
      rw [checkTarget, (hscan e).2]
      simp only [List.cons_append, (hscan' e).2]
      split <;> simp_all
  · refine .inl ⟨.badCharacter, fun e => ?_⟩
    rw [checkTarget, (hscan e).2]
    split <;> simp_all

/-- An address that is not too long is read from its characters. -/
theorem Address.ofText_eq {s : String} (h : s.utf8ByteSize < 65535) :
    Address.ofText s =
      if s.toList.head? = some '/' then
        (checkTarget s.toList).map fun target => ⟨none, [], target⟩
      else
        splitScheme s.toList >>= fun
        | none => splitAuthority s.toList >>= fun p =>
            if p.2 = [] then .ok ⟨none, p.1, []⟩ else .error .badShape
        | some (scheme, rest) => splitAuthority rest >>= fun p =>
            if p.1 = [] then .error .badShape
            else (checkTarget p.2).map fun target => ⟨some scheme, p.1, target⟩ := by
  rw [Address.ofText, if_neg (by omega)]
  split
  · cases checkTarget s.toList <;> rfl
  · rcases splitScheme s.toList with fault | _ | ⟨scheme, rest⟩
    · rfl
    · simp only [bind, Except.bind]
      rcases splitAuthority s.toList with fault | ⟨authority, rest⟩
      · rfl
      · cases rest <;> rfl
    · simp only [bind, Except.bind]
      rcases splitAuthority rest with fault | ⟨authority, rest⟩
      · rfl
      · cases authority <;> cases checkTarget rest <;> rfl

/-- For one server, the addresses of items are all refused for one reason, or have all the same
scheme and authority. -/
theorem ofText_itemUrl (base : String) :
    (∃ fault, ∀ item, (itemUrl base item).utf8ByteSize < 65535 →
      Address.ofText (itemUrl base item) = .error fault) ∨
    ∃ scheme authority, ∀ item, (itemUrl base item).utf8ByteSize < 65535 →
      ∃ target, Address.ofText (itemUrl base item) = .ok ⟨scheme, authority, target⟩ := by
  have hsegment : ∀ item, ∀ c ∈ (percentEncode item).toList, IsSegmentChar c := fun _ _ =>
    isSegmentChar_of_mem_percentEncode
  have hslash : '/' ∈ itemFront base := by
    rw [itemFront_eq]
    exact List.mem_append_right _ List.mem_cons_self
  have hhead : ∀ e, (itemFront base ++ e).head? = (itemFront base).head? := by
    intro e
    obtain ⟨c, cs, hcs⟩ := List.exists_cons_of_ne_nil (List.ne_nil_of_mem hslash)
    rw [hcs, List.cons_append, List.head?_cons, List.head?_cons]
  by_cases hfirst : (itemFront base).head? = some '/'
  · rcases checkTarget_append (itemFront base) with ⟨fault, htarget⟩ | htarget
    · refine .inl ⟨fault, fun item hsize => ?_⟩
      rw [Address.ofText_eq hsize, toList_itemUrl, hhead, if_pos hfirst, htarget]
      rfl
    · refine .inr ⟨none, [], fun item hsize => ?_⟩
      obtain ⟨target, ht⟩ := htarget _ (hsegment item)
      refine ⟨target, ?_⟩
      rw [Address.ofText_eq hsize, toList_itemUrl, hhead, if_pos hfirst, ht]
      rfl
  have hread : ∀ item, (itemUrl base item).utf8ByteSize < 65535 →
      Address.ofText (itemUrl base item) =
        splitScheme (itemFront base ++ (percentEncode item).toList) >>= fun
        | none => splitAuthority (itemFront base ++ (percentEncode item).toList) >>= fun p =>
            if p.2 = [] then .ok ⟨none, p.1, []⟩ else .error .badShape
        | some (scheme, rest) => splitAuthority rest >>= fun p =>
            if p.1 = [] then .error .badShape
            else (checkTarget p.2).map fun target => ⟨some scheme, p.1, target⟩ := by
    intro item hsize
    rw [Address.ofText_eq hsize, toList_itemUrl, hhead, if_neg hfirst]
  rcases splitScheme_itemFront base with ⟨fault, hscheme⟩ | hscheme | ⟨scheme, cs, hcs, hscheme⟩
  · refine .inl ⟨fault, fun item hsize => ?_⟩
    rw [hread item hsize, hscheme]
    rfl
  · rcases splitAuthority_append hslash with ⟨fault, hauthority⟩ | ⟨authority, rest, hne, hauthority⟩
    · refine .inl ⟨fault, fun item hsize => ?_⟩
      rw [hread item hsize, hscheme, hauthority]
      rfl
    · refine .inl ⟨.badShape, fun item hsize => ?_⟩
      rw [hread item hsize, hscheme, hauthority]
      exact if_neg (List.append_ne_nil_of_left_ne_nil hne _)
  · rcases splitAuthority_append hcs with ⟨fault, hauthority⟩ | ⟨authority, rest, -, hauthority⟩
    · refine .inl ⟨fault, fun item hsize => ?_⟩
      rw [hread item hsize, hscheme]
      change splitAuthority (cs ++ _) >>= _ = _
      rw [hauthority]
      rfl
    by_cases hempty : authority = []
    · refine .inl ⟨.badShape, fun item hsize => ?_⟩
      rw [hread item hsize, hscheme]
      change splitAuthority (cs ++ _) >>= _ = _
      rw [hauthority]
      exact if_pos hempty
    have htarget : ∀ item, (itemUrl base item).utf8ByteSize < 65535 →
        Address.ofText (itemUrl base item) =
          (checkTarget (rest ++ (percentEncode item).toList)).map fun target =>
            ⟨some scheme, authority, target⟩ := by
      intro item hsize
      rw [hread item hsize, hscheme]
      change splitAuthority (cs ++ _) >>= _ = _
      rw [hauthority]
      exact if_neg hempty
    rcases checkTarget_append rest with ⟨fault, hcheck⟩ | hcheck
    · refine .inl ⟨fault, fun item hsize => ?_⟩
      rw [htarget item hsize, hcheck]
      rfl
    · refine .inr ⟨some scheme, authority, fun item hsize => ?_⟩
      obtain ⟨target, ht⟩ := hcheck _ (hsegment item)
      exact ⟨target, by rw [htarget item hsize, ht]; rfl⟩

/-- Host, port and authority of a destination are those of the authority of its address. -/
theorem Destination.exists_ofUrl {url : String} {authority target : List Char}
    (h : Address.ofText url = .ok ⟨some "http", authority, target⟩) :
    ∃ d, Destination.ofUrl url = .ok d ∧ d.host = Address.host ⟨none, authority, []⟩ ∧
      d.port = (Address.port? ⟨none, authority, []⟩).getD 80 ∧ d.authority = authority := by
  rw [Destination.ofUrl, h]
  exact ⟨_, if_pos rfl, rfl, rfl, rfl⟩

/-- The headers of a request name the authority, and nothing else of the destination. -/
theorem Destination.headers_of_request {d : Destination} {state : String} {r : Request}
    (h : d.request state = .ok r) :
    r.headers = (if state = "" then [] else ["content-length: " ++ showNat state.utf8ByteSize]) ++
      ["content-type: text/plain", "host: " ++ String.ofList d.authority] := by
  rw [Destination.request] at h
  split at h
  · cases h
  · cases h
    rfl

/-- The items of one server have addresses that are refused for the same reason, or that are all of
a scheme that cannot be spoken, or that lead to the same host and port with the same headers: as
long as the addresses are not too long, the name of the item has no say in it. -/
theorem Destination.ofUrl_itemUrl {base item₁ item₂ : String}
    (h₁ : (itemUrl base item₁).utf8ByteSize < 65535)
    (h₂ : (itemUrl base item₂).utf8ByteSize < 65535) :
    (∃ fault,
      Destination.ofUrl (itemUrl base item₁) = .error (.badAddress (itemUrl base item₁) fault) ∧
      Destination.ofUrl (itemUrl base item₂) = .error (.badAddress (itemUrl base item₂) fault)) ∨
    (Destination.ofUrl (itemUrl base item₁) = .error (.unsupported (itemUrl base item₁)) ∧
      Destination.ofUrl (itemUrl base item₂) = .error (.unsupported (itemUrl base item₂))) ∨
    ∃ d₁ d₂, Destination.ofUrl (itemUrl base item₁) = .ok d₁ ∧
      Destination.ofUrl (itemUrl base item₂) = .ok d₂ ∧
      d₁.host = d₂.host ∧ d₁.port = d₂.port ∧ d₁.authority = d₂.authority ∧
      ∀ state r₁ r₂, d₁.request state = .ok r₁ → d₂.request state = .ok r₂ →
        r₁.headers = r₂.headers := by
  rcases ofText_itemUrl base with ⟨fault, hfault⟩ | ⟨scheme, authority, haddress⟩
  · refine .inl ⟨fault, ?_, ?_⟩
    · rw [Destination.ofUrl, hfault item₁ h₁]
    · rw [Destination.ofUrl, hfault item₂ h₂]
  · obtain ⟨target₁, ht₁⟩ := haddress item₁ h₁
    obtain ⟨target₂, ht₂⟩ := haddress item₂ h₂
    by_cases hscheme : scheme = some "http"
    · subst hscheme
      obtain ⟨d₁, hd₁, hhost₁, hport₁, hauthority₁⟩ := Destination.exists_ofUrl ht₁
      obtain ⟨d₂, hd₂, hhost₂, hport₂, hauthority₂⟩ := Destination.exists_ofUrl ht₂
      refine .inr (.inr ⟨d₁, d₂, hd₁, hd₂, hhost₁.trans hhost₂.symm, hport₁.trans hport₂.symm,
        hauthority₁.trans hauthority₂.symm, fun state r₁ r₂ hr₁ hr₂ => ?_⟩)
      rw [Destination.headers_of_request hr₁, Destination.headers_of_request hr₂, hauthority₁,
        hauthority₂]
    · refine .inr (.inl ⟨?_, ?_⟩)
      · rw [Destination.ofUrl, ht₁]
        exact if_neg hscheme
      · rw [Destination.ofUrl, ht₂]
        exact if_neg hscheme

/-- So it is with a server whose address holds a name, a port and a query, and with a name of an
item that would stand for another server if it were not escaped. -/
theorem Destination.ofUrl_itemUrl_query :
    ∃ base item : String, base = "http://me:pw@home:8080?q=" ∧ item = "@evil:1/?#" ∧
      (itemUrl base item).utf8ByteSize < 65535 ∧ (itemUrl base "Light").utf8ByteSize < 65535 ∧
      ∃ d₁ d₂, Destination.ofUrl (itemUrl base item) = .ok d₁ ∧
        Destination.ofUrl (itemUrl base "Light") = .ok d₂ ∧
        d₁.host = d₂.host ∧ d₁.port = d₂.port ∧ d₁.authority = d₂.authority ∧
        d₂.host = "home".toList ∧ d₂.port = 8080 ∧ d₂.authority = "me:pw@home:8080".toList := by
  let base := "http://me:pw@home:8080?q="
  let item := "@evil:1/?#"
  have h₁ : (itemUrl base item).utf8ByteSize < 65535 := by decide +kernel
  have h₂ : (itemUrl base "Light").utf8ByteSize < 65535 := by decide +kernel
  have hplace : (Destination.ofUrl (itemUrl base "Light")).toOption.map
      (fun d => (d.host, d.port, d.authority)) =
        some ("home".toList, 8080, "me:pw@home:8080".toList) := by decide +kernel
  refine ⟨base, item, rfl, rfl, h₁, h₂, ?_⟩
  rcases Destination.ofUrl_itemUrl h₁ h₂ with ⟨_, -, hd⟩ | ⟨-, hd⟩ | ⟨d₁, d₂, hd₁, hd₂, hsame⟩
  · rw [hd] at hplace
    cases hplace
  · rw [hd] at hplace
    cases hplace
  · rw [hd₂] at hplace
    have hplace₂ := Option.some.inj hplace
    simp only [Prod.mk.injEq] at hplace₂
    obtain ⟨hhost, hport, hauthority⟩ := hplace₂
    exact ⟨d₁, d₂, hd₁, hd₂, hsame.1, hsame.2.1, hsame.2.2.1, hhost, hport, hauthority⟩

end ChordRules
