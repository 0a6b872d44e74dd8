import TermTape.Proofs.Loading.Chain

/-!
# Pages of the network

A page of the network never leads off it: whatever its link says, it is taken against the URL of the
page and is a URL again. So what is loaded from a URL depends on neither the disk nor the standard
input (`load_remote_eq`), although pages on disk do lead to files and to the standard input.
-/
namespace TermTape.Loading

variable {world world' : World} {limit : Nat} {location target : Location}

/-- The location is a URL. -/
def IsRemote (location : Location) : Prop := ∃ url, location = .remote url

/-! ## One page -/

/-- What stands at a URL depends on the network alone. -/
theorem fetch_remote (same : world.network = world'.network) (url : Url) :
    fetch world (.remote url) = fetch world' (.remote url) := by
  rw [fetch, fetch, same]

/-- The links of a page of the network are taken against a URL. -/
theorem base_of_fetch_remote {url : Url} {text : List Char} {base : LinkBase}
    (found : fetch world (.remote url) = .ok (.page text base)) : ∃ page, base = .remote page := by
  obtain ⟨⟨page, response⟩, -, found⟩ := ok_of_bind found
  change (if _ then _ else _) = _ at found
  split at found
  · cases found
    exact ⟨page, rfl⟩
  · cases found

private theorem isRemote_of_resolve {link : String} {page : Url}
    (leads : resolve link (.remote page) = .ok target) : IsRemote target := by
  rw [resolve] at leads
  split at leads
  · cases leads
    exact ⟨_, rfl⟩
  · cases leads

/-- The link of a page of the network is a URL. -/
theorem isRemote_of_next {url : Url} {text : List Char} {base : LinkBase}
    (found : fetch world (.remote url) = .ok (.page text base))
    (leads : next location text base = .ok target) : IsRemote target := by
  obtain ⟨page, rfl⟩ := base_of_fetch_remote found
  unfold next at leads
  split at leads
  · cases leads
  · exact isRemote_of_resolve leads

/-! ## Chains -/

/-- Every location of a chain that starts at a URL is a URL. -/
theorem isRemote_of_chain? {url : Url} {k : Nat}
    (reached : chain? world (.remote url) k = some location) : IsRemote location := by
  induction k generalizing location with
  | zero => exact ⟨url, (Option.some.inj reached).symm⟩
  | succ k ih =>
    obtain ⟨before, earlier, links⟩ := Option.bind_eq_some_iff.mp reached
    obtain ⟨text, base, found, leads⟩ := page_of_linked? links
    obtain ⟨url, rfl⟩ := ih earlier
    exact isRemote_of_next found leads

/-- Following from a URL makes the same requests, with the same outcome, whatever stands on disk and
on the standard input. -/
theorem followLogged_remote (same : world.network = world'.network) (remote : IsRemote location) :
    followLogged world limit location = followLogged world' limit location := by
  obtain ⟨url, rfl⟩ := remote
  induction limit generalizing url with
  | zero => rw [followLogged, followLogged, fetch_remote same]
  | succ limit ih =>
    rw [followLogged, followLogged, fetch_remote same]
    split
    · rfl
    · rfl
    · -- both pages have one link, which leads both to one URL
      rename_i text base found
      split
      · rfl
      · rename_i target leads
        obtain ⟨next, rfl⟩ := isRemote_of_next found leads
        simp only [ih next]

private theorem follow_remote (same : world.network = world'.network) (url : Url) :
    follow world limit (.remote url) = follow world' limit (.remote url) :=
  calc follow world limit (.remote url)
      = (followLogged world limit (.remote url)).2 := followLogged_outcome.symm
    _ = (followLogged world' limit (.remote url)).2 :=
        congrArg Prod.snd (followLogged_remote same ⟨url, rfl⟩)
    _ = follow world' limit (.remote url) := followLogged_outcome

/-- What is loaded from a URL does not depend on the disk and the standard input. However many links
are followed, and whatever they say, only URLs are reached and fetched. -/
theorem load_remote_eq (network : Network) (limit : Nat) (url : Url) (disk disk' : Disk)
    (input input' : Except IoError Bytes) :
    load ⟨disk, network, input⟩ limit (.remote url) =
        load ⟨disk', network, input'⟩ limit (.remote url) ∧
      (∀ k location, chain? ⟨disk, network, input⟩ (.remote url) k = some location →
        IsRemote location) ∧
      ∀ location ∈ (followLogged ⟨disk, network, input⟩ limit (.remote url)).1,
        IsRemote location := by
  refine ⟨?_, fun k location reached => isRemote_of_chain? reached, fun location logged => ?_⟩
  · have same : follow ⟨disk, network, input⟩ limit (.remote url) =
        follow ⟨disk', network, input'⟩ limit (.remote url) := follow_remote (by rfl) url
    rw [load, load, same]
  · obtain ⟨k, found⟩ := List.getElem?_of_mem logged
    rw [followLogged_log] at found
    split at found
    · exact isRemote_of_chain? found
    · cases found

/-- A disk with a page that links to a document. -/
def onePage : World where
  disk := ((Disk.blank "home").plant "page.html" (pageTo "shell.json")).plant "shell.json" shell
  network := .silent
  input := .ok []

/-- A network whose only page links to a file. -/
def toFile : Network := fun _ =>
  some ⟨200, some (textBytes "text/html"), none, pageTo "file:///shell.json"⟩

/-- The URL of the page. -/
def pageUrl : Url := ⟨Url.http, some ⟨[], [], .name ['h'], none⟩, .segments [[]], none, none⟩

/-- A page of the network that links to a file leads to a URL, and is loaded as on an empty disk. -/
theorem load_remote_eq_toFile :
    load ⟨onePage.disk, toFile, .ok shell⟩ 5 (.remote pageUrl) =
        load ⟨Disk.blank "home", toFile, .ok []⟩ 5 (.remote pageUrl) ∧
      ∃ target, chain? ⟨onePage.disk, toFile, .ok shell⟩ (.remote pageUrl) 1 = some target ∧
        target.text = "file:///shell.json" ∧ IsRemote target := by
  obtain ⟨same, remote, -⟩ := load_remote_eq toFile 5 pageUrl onePage.disk (Disk.blank "home")
    (.ok shell) (.ok [])
  have reached : (chain? ⟨onePage.disk, toFile, .ok shell⟩ (.remote pageUrl) 1).map Location.text =
      some "file:///shell.json" := by
    decide +kernel
  obtain ⟨target, found, text⟩ := Option.map_eq_some_iff.mp reached
  exact ⟨same, target, found, text, remote 1 target found⟩

end TermTape.Loading
