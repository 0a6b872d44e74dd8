import Mathlib.Data.Bool.AllAny
import TermTape.Proofs.Loading.Remote
import TermTape.Proofs.Number.Digits

/-!
# Links to the gateway

A location that begins with the mark of the gateway stands for a URL there (`read_gateway`), and so
does a link of a page on disk. On a page of the network the same link is taken for a URL of its own,
whose scheme is the mark, and nothing can be fetched from it (`fetch_of_scheme`). So such a link means
what the location means on pages on disk only (`gateway_link_iff`).
-/
namespace TermTape

namespace Url

variable {base : Option Url} {scheme text : List Char} {url : Url}

/-! ## Absolute URLs -/

/-- A beginning without blanks is left as it is when a text is tidied. -/
theorem tidy_append (front rest : List Char) (some : front ≠ [])
    (solid : ∀ c ∈ front, isOuterBlank c = false) :
    ∃ rest', tidy (front ++ rest) = front ++ rest' := by
  have start : (front ++ rest).dropWhile isOuterBlank = front ++ rest := by
    obtain ⟨first, others, rfl⟩ := List.exists_cons_of_ne_nil some
    simp [solid first (List.mem_cons_self ..)]
  have stop : front.reverse.dropWhile isOuterBlank = front.reverse := by
    obtain ⟨others, last, rfl⟩ := List.eq_nil_or_concat front |>.resolve_left some
    simp [solid last (by simp)]
  have kept : front.filter (fun c => c != '\t' && c != '\n' && c != '\r') = front := by
    refine List.filter_eq_self.mpr fun c member => ?_
    have above : 0x20 < c.toNat := by simpa [isOuterBlank] using solid c member
    have other {d : Char} (low : d.toNat ≤ 0x20) : (c != d) = true := by
      refine bne_iff_ne.mpr fun same => ?_
      rw [same] at above
      omega
    simp only [other (by decide : '\t'.toNat ≤ 0x20), other (by decide : '\n'.toNat ≤ 0x20),
      other (by decide : '\r'.toNat ≤ 0x20), Bool.and_self]
  rw [tidy, start, List.reverse_append, List.dropWhile_append, stop]
  split
  · rw [List.reverse_reverse, kept]
    exact ⟨[], (List.append_nil _).symm⟩
  · rw [List.reverse_append, List.reverse_reverse, List.filter_append, kept]
    exact ⟨_, rfl⟩

/-- A text that begins with a name and a colon is one of the scheme of that name. -/
theorem scheme?_append (first : Char) (name rest : List Char)
    (alpha : first.isAlpha = true) (letters : ∀ c ∈ first :: name, isSchemeChar c = true) :
    scheme? (first :: name ++ ':' :: rest) = some ((first :: name).map Char.toLower, rest) := by
  obtain ⟨taken, dropped⟩ := takeWhile_append_stop (':' :: rest) letters (by simp [isSchemeChar])
  rw [scheme?, taken, dropped]
  exact if_pos alpha

private theorem scheme_of_afterSlashes (read : afterSlashes scheme text = .ok url) :
    url.scheme = scheme := by
  obtain ⟨authority, -, made⟩ := ok_of_bind read
  cases made
  rfl

/-- A URL of a scheme that is neither one of the web nor that of files has it, whatever the base. -/
theorem scheme_of_ofScheme (disk : (scheme == fileScheme) = false) (web : isWeb scheme = false)
    (read : ofScheme base scheme text = .ok url) : url.scheme = scheme := by
  unfold ofScheme at read
  simp only [disk, web, Bool.false_eq_true, ↓reduceIte] at read
  split at read
  · exact scheme_of_afterSlashes read
  · cases read
    rfl

private theorem cutAt_fst (sign : Char) (text : List Char) :
    (cutAt sign text).1 = text.takeWhile (· != sign) := by
  rw [cutAt]
  split
  · rename_i none
    have parts := List.takeWhile_append_dropWhile (p := (· != sign)) (l := text)
    rw [none, List.append_nil] at parts
    exact parts.symm
  · rfl

/-- What comes before the query and the fragment begins as the text does up to their signs. -/
theorem body_cut_append (front rest : List Char)
    (plain : ∀ c ∈ front, c ≠ '#' ∧ c ≠ '?') :
    ∃ rest', (cut (front ++ rest)).body = front ++ rest' := by
  have fragment : ∀ c ∈ front, (c != '#') = true := fun c member => by simpa using (plain c member).1
  have query : ∀ c ∈ front, (c != '?') = true := fun c member => by simpa using (plain c member).2
  change ∃ rest', (cutAt '?' (cutAt '#' (front ++ rest)).1).1 = _
  rw [cutAt_fst, cutAt_fst, List.takeWhile_append_of_pos fragment,
    List.takeWhile_append_of_pos query]
  exact ⟨_, rfl⟩

/-! ## The gateway -/

/-- The host of the gateway. -/
def gatewayHost : List Char := ['i', 'p', 'f', 's', '.', 'i', 'o']

private theorem authorityOf_gateway :
    authorityOf https gatewayHost = .ok ⟨[], [], .name gatewayHost, none⟩ := by
  decide +kernel

private theorem afterSlashes_gateway (rest : List Char) :
    ∃ url, afterSlashes https (gatewayHost ++ '/' :: rest) = .ok url ∧ url.scheme = https ∧
      url.authority = some ⟨[], [], .name gatewayHost, none⟩ := by
  obtain ⟨tail, body⟩ := body_cut_append (gatewayHost ++ ['/']) rest
    (List.all_iff_forall_prop.mp (by decide))
  rw [List.append_assoc, List.append_assoc] at body
  have stop : ∀ c ∈ ('/' :: tail).head?, (!isSlash https c) = false := by
    rintro c ⟨⟩
    rfl
  have letters : ∀ c ∈ gatewayHost, (!isSlash https c) = true :=
    List.all_eq_true.mp (by decide)
  have host := (takeWhile_append_stop ('/' :: tail) letters stop).1
  simp only [List.cons_append, List.nil_append] at body
  rw [afterSlashes, body, host, authorityOf_gateway]
  exact ⟨_, rfl, rfl, rfl⟩

/-- A text that begins with the gateway is a URL there. -/
theorem read_gateway (path : List Char) :
    ∃ url, Url.read (Location.gatewayText path) = .ok url ∧ url.scheme = https ∧
      url.authority = some ⟨[], [], .name gatewayHost, none⟩ := by
  have text : (Location.gatewayText path).toList =
      'h' :: ['t', 't', 'p', 's'] ++ ':' :: '/' :: '/' :: (gatewayHost ++ ['/']) ++
        path.dropWhile (· == '/') := by
    simp [Location.gatewayText, Location.gateway, gatewayHost]
  obtain ⟨tail, tidied⟩ := tidy_append
    ('h' :: ['t', 't', 'p', 's'] ++ ':' :: '/' :: '/' :: (gatewayHost ++ ['/']))
    (path.dropWhile (· == '/')) (by decide) (List.all_iff_forall_prop.mp (by decide))
  have scheme := scheme?_append 'h' ['t', 't', 'p', 's']
    ('/' :: '/' :: (gatewayHost ++ '/' :: tail)) (by decide) (List.all_eq_true.mp (by decide))
  rw [read, readAgainst, text, tidied]
  simp only [List.append_assoc, List.cons_append, List.nil_append] at scheme ⊢
  rw [scheme]
  exact afterSlashes_gateway tail

end Url

namespace Network

/-- Nothing can be fetched from a URL that is not one of pages. -/
theorem fetch_of_scheme (network : Network) {url : Url} (plain : url.scheme ≠ Url.http)
    (secure : url.scheme ≠ Url.https) :
    ∃ text, network.fetch url = .error (.refusedScheme text) := by
  have same : (requested url).scheme = url.scheme := by
    unfold requested
    split
    · split <;> rfl
    · rfl
  have refused (left : Nat) :
      network.ask left (requested url) = .error (.refusedScheme (requested url).text) := by
    rw [ask.eq_def]
    exact if_neg (by rw [same]; exact not_or.mpr ⟨plain, secure⟩)
  rw [fetch]
  dsimp only
  split
  · rw [refused]
    exact ⟨_, rfl⟩
  · exact ⟨_, rfl⟩

end Network

namespace Location

variable {mark : String}

private theorem mark_solid : ∀ mark ∈ gatewayMarks, mark.toList ≠ [] ∧
    ∀ c ∈ mark.toList, Url.isOuterBlank c = false :=
  List.forall_mem_cons.mpr ⟨⟨by decide, List.all_iff_forall_prop.mp (by decide)⟩,
    List.forall_mem_singleton.mpr ⟨by decide, List.all_iff_forall_prop.mp (by decide)⟩⟩

/-- A mark of the gateway is the name of a scheme that is neither one of the web nor that of files. -/
theorem scheme?_mark (listed : mark ∈ gatewayMarks) (rest : List Char) :
    ∃ name, mark.toList = name ++ [':', '/'] ∧
      Url.scheme? (mark.toList ++ rest) = some (name, '/' :: rest) ∧
      (name == Url.fileScheme) = false ∧ Url.isWeb name = false := by
  simp only [gatewayMarks, List.mem_cons, List.not_mem_nil, or_false] at listed
  rcases listed with rfl | rfl
  · exact ⟨['i', 'p', 'f', 's'], rfl,
      Url.scheme?_append 'i' ['p', 'f', 's'] ('/' :: rest) (by decide)
        (List.all_eq_true.mp (by decide)), rfl, rfl⟩
  · exact ⟨['f', 's'], rfl,
      Url.scheme?_append 'f' ['s'] ('/' :: rest) (by decide) (List.all_eq_true.mp (by decide)),
      rfl, rfl⟩

private theorem afterMark?_gateway (listed : mark ∈ gatewayMarks) (path : List Char) :
    afterMark? gatewayMarks (mark.toList ++ path) = some path := by
  simp only [gatewayMarks, List.mem_cons, List.not_mem_nil, or_false] at listed
  rcases listed with rfl | rfl
  · have length : "ipfs:/".length = 6 := rfl
    simp [afterMark?, gatewayMarks, length]
  · have length : "fs:/".length = 4 := rfl
    simp [afterMark?, gatewayMarks, length]

/-- A location with a mark of the gateway is the path after it on the gateway. -/
theorem read_of_gateway {text : String} {path : List Char} (listed : mark ∈ gatewayMarks)
    (opens : text.toList = mark.toList ++ path) : read text = ofUrl (gatewayText path) := by
  have other : text ≠ "-" := by
    rintro rfl
    simp only [gatewayMarks, List.mem_cons, List.not_mem_nil, or_false] at listed
    rcases listed with rfl | rfl <;> simp at opens
  rw [read, if_neg other, opens, afterMark?_gateway listed]

end Location

namespace Loading

variable {mark link : String}

/-- The link of a page on disk that is no path is the location that it reads as. -/
theorem resolve_directory {url : Url} (directory : String)
    (read : Location.read link = .ok (.remote url)) :
    resolve link (.directory directory) = .ok (.remote url) := by
  rw [resolve, read]
  rfl

/-- The location of a link on a page of the network is the URL that it joins to. -/
theorem join_of_resolve {page : Url} {target : Location}
    (leads : resolve link (.remote page) = .ok target) :
    ∃ url, page.join link = .ok url ∧ target = .remote url := by
  rw [resolve] at leads
  split at leads
  · rename_i url joined
    cases leads
    exact ⟨url, joined, rfl⟩
  · cases leads

/-- On a page of the network a link with a mark of the gateway keeps the mark as its scheme. -/
theorem scheme_of_join {page url : Url} {path : List Char} (listed : mark ∈ Location.gatewayMarks)
    (opens : link.toList = mark.toList ++ path) (joined : page.join link = .ok url) :
    mark.toList = url.scheme ++ [':', '/'] ∧ url.scheme ≠ Url.http ∧ url.scheme ≠ Url.https := by
  obtain ⟨some, solid⟩ := Location.mark_solid mark listed
  obtain ⟨tail, tidied⟩ := Url.tidy_append mark.toList path some solid
  obtain ⟨name, form, scheme, disk, web⟩ := Location.scheme?_mark listed tail
  rw [Url.join, Url.readAgainst, opens, tidied] at joined
  simp only [scheme] at joined
  rw [Url.scheme_of_ofScheme disk web joined]
  refine ⟨form, ?_, ?_⟩
  · rintro rfl
    cases web
  · rintro rfl
    cases web

/-- A link with a mark of the gateway is, as a location, the URL on the gateway that the rest of it
leads to. Pages on disk take it so, and pages of the network never do: there it is refused, or it
stands for a URL whose scheme is the mark, from which nothing can be fetched. -/
theorem gateway_link_iff (listed : mark ∈ ["ipfs:/", "fs:/"])
    (opens : mark.toList <+: link.toList) :
    (∃ path url, link.toList = mark.toList ++ path ∧
        Url.read ("https://ipfs.io" ++ "/" ++ String.ofList (path.dropWhile (· == '/'))) = .ok url ∧
        Location.read link = .ok (.remote url) ∧ url.scheme = Url.https ∧
        url.authority = some ⟨[], [], .name Url.gatewayHost, none⟩) ∧
      (∀ base, resolve link base = Location.read link ↔ ∃ directory, base = .directory directory) ∧
      ∀ page target, resolve link (.remote page) = .ok target →
        ∃ url, target = .remote url ∧ mark.toList = url.scheme ++ [':', '/'] ∧
          ∀ world, ∃ text, fetch world target = .error (.network (.refusedScheme text)) := by
  obtain ⟨path, opens⟩ := opens
  have opens := opens.symm
  obtain ⟨url, read, secure, authority⟩ := Url.read_gateway path
  have means : Location.read link = .ok (.remote url) := by
    rw [Location.read_of_gateway listed opens, Location.ofUrl, read]
  refine ⟨⟨path, url, opens, read, means, secure, authority⟩, fun base => ?_, ?_⟩
  · cases base with
    | directory directory =>
      rw [resolve_directory directory means, means]
      exact iff_of_true rfl ⟨directory, rfl⟩
    | remote page =>
      refine iff_of_false (fun same => ?_) nofun
      rw [means] at same
      obtain ⟨joinedUrl, joined, at_url⟩ := join_of_resolve same
      cases at_url
      exact (scheme_of_join listed opens joined).2.2 secure
  · intro page target leads
    obtain ⟨joinedUrl, joined, rfl⟩ := join_of_resolve leads
    obtain ⟨form, plain, safe⟩ := scheme_of_join listed opens joined
    refine ⟨joinedUrl, rfl, form, fun world => ?_⟩
    obtain ⟨text, refused⟩ := world.network.fetch_of_scheme plain safe
    rw [fetch, refused]
    exact ⟨text, rfl⟩

/-- A link with a mark of the gateway means the location on a page of the disk, and on no page of the
network. -/
theorem gateway_link_short :
    resolve "fs:/a.json" (.directory "pages") = Location.read "fs:/a.json" ∧
      ∀ page, resolve "fs:/a.json" (.remote page) ≠ Location.read "fs:/a.json" := by
  obtain ⟨-, same, -⟩ := gateway_link_iff (show "fs:/" ∈ ["ipfs:/", "fs:/"] by decide)
    (show "fs:/".toList <+: "fs:/a.json".toList by decide)
  exact ⟨(same _).mpr ⟨"pages", rfl⟩, fun page equal => nomatch (same (.remote page)).mp equal⟩

/-- One link leads to the gateway from a page on disk, and to a URL of its own from a page of the
network. -/
theorem gateway_link_lost :
    (resolve "ipfs:/ipfs/a.json" (.directory "")).toOption.map Location.text =
        some "https://ipfs.io/ipfs/a.json" ∧
      (Location.read "ipfs:/ipfs/a.json").toOption.map Location.text =
        some "https://ipfs.io/ipfs/a.json" ∧
      (resolve "ipfs:/ipfs/a.json" (.remote pageUrl)).toOption.map Location.text =
        some "ipfs:/ipfs/a.json" := by
  decide +kernel

end Loading
end TermTape
