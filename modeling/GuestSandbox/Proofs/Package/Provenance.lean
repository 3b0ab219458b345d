import GuestSandbox.Fixture.Routes
import GuestSandbox.Proofs.Package.Finding
import GuestSandbox.Proofs.Package.Growth
import GuestSandbox.Proofs.Package.Obtaining

namespace GuestSandbox

open Operation Relation

theorem Journal.persisted_of_sends {journal last : Journal} (traffic : ReflTransGen Journal.Sends journal last) :
    last.persisted = journal.persisted := by
  induction traffic with
  | refl => rfl
  | tail _ step ih =>
    cases step with
    | sent request => exact (filterMap_record _ rfl).trans ih
    | waited left => exact ih

namespace Digest

def isLowerHex (c : Char) : Bool := c.isDigit || ('a' ≤ c && c ≤ 'f')

theorem isLowerHex_of_mem_hexByte {b : UInt8} {c : Char} (member : c ∈ hexByte b) : isLowerHex c = true := by
  have digits : ∀ n < 16, isLowerHex (Char.ofNat (if n < 10 then 0x30 + n else 0x57 + n)) = true := by decide
  have bound := b.toNat_lt
  rcases List.mem_cons.mp member with rfl | last
  · exact digits _ (by omega)
  · rw [List.mem_singleton.mp last]
    exact digits _ (by omega)

theorem isLowerHex_of_mem_hexText {bytes : Text.Bytes} {c : Char} (member : c ∈ (hexText bytes).toList) :
    isLowerHex c = true := by
  rw [hexText, String.toList_ofList] at member
  obtain ⟨b, _, digit⟩ := List.mem_flatMap.mp member
  exact isLowerHex_of_mem_hexByte digit

theorem sha256_length (message : Text.Bytes) : (sha256 message).length = 32 := by
  simp [sha256, State.bytes, bigEndian]

end Digest

-- The answer to the last request of those that were sent in between.
def Network.Answers (net : Network) (before last : Journal) (response : Response) : Prop :=
  ∃ earlier request, last.sent = before.sent ++ earlier ++ [request] ∧
    (net (before.sent ++ earlier) request).outcome = .ok response

namespace Installing

open Loading (request)

variable {net : Network} {policy : Policy} {host : PackageHost} {stamp text : String}

structure Describes (policy : Policy) (record : PackageRecord) (source : String) (response : Response) : Prop where
  digest : record.sha256 = Digest.hexText (Digest.sha256 response.body)
  size : record.sizeBytes = response.size.toUInt64
  fits : response.size ≤ policy.pkgMaxModuleBytes
  text : source = response.text

theorem recordOf_ok {spec : String} {resolved entry : Url} {response : Response} {record : PackageRecord}
    {source : String} (made : recordOf policy spec stamp resolved entry response = .ok (record, source)) :
    Describes policy record source response ∧ record.spec = spec ∧ record.entryUrl = entry.text := by
  unfold recordOf at made
  split at made
  · cases made
  · rename_i small
    cases made
    exact ⟨⟨rfl, rfl, Nat.not_lt.mp small, rfl⟩, rfl, rfl⟩

theorem Describes.digits {record : PackageRecord} {source : String} {response : Response}
    (describes : Describes policy record source response) :
    record.sha256.length = 64 ∧ ∀ c ∈ record.sha256.toList, Digest.isLowerHex c = true := by
  rw [describes.digest]
  refine ⟨?_, fun c => Digest.isLowerHex_of_mem_hexText⟩
  rw [Digest.hexText_length, Digest.sha256_length]

-- The size is kept as a word of 64 bits, and no limit is greater than one.
theorem Describes.toNat_size {record : PackageRecord} {source : String} {response : Response}
    (word : policy.pkgMaxModuleBytes ≤ greatestWord) (describes : Describes policy record source response) :
    record.sizeBytes.toNat = response.size := by
  rw [describes.size]
  exact UInt64.toNat_ofNat_of_lt (Nat.lt_of_le_of_lt (Nat.le_trans describes.fits word) (by decide))

structure Installs (net : Network) (policy : Policy) (host : PackageHost) (text : String) (before : Installing)
    (record : PackageRecord) (source : String) (after : Installing) : Prop where
  spec : record.spec = Text.trim text
  filled : record.spec ≠ ""
  short : record.spec.length ≤ policy.pkgMaxSpecLength
  allowed : ∀ c ∈ record.spec.toList, PackageSpec.isAllowed c = true
  absent : before.inventory.get? record.spec = none
  added : ∃ front back, before.inventory.records = front ++ back ∧ after.inventory.records = front ++ record :: back
  room : before.tally.packageInstalls < policy.pkgMaxInstallsPerRun
  counted : after.tally = { before.tally with packageInstalls := before.tally.packageInstalls + 1 }
  persisted : after.journal.persisted = before.journal.persisted ++ [after.inventory]
  entry : ∃ entry : Url, host.serves entry = true ∧ record.entryUrl = entry.text
  digits : record.sha256.length = 64 ∧ ∀ c ∈ record.sha256.toList, Digest.isLowerHex c = true
  received : ∃ response, net.Answers before.journal after.journal response ∧ Describes policy record source response ∧
    record.sizeBytes.toNat = response.size

-- All documents that are asked for are on the host of packages, and none is asked for without need.
theorem obtain_asks (web : host.base.isHttp = true) (net : Network) (policy : Policy) (stamp text : String)
    (before : Installing) : ∃ urls : List Url,
      ((obtain net policy host stamp text).after before).journal.sent =
        before.journal.sent ++ urls.map (request policy ·.text) ∧
      urls.length ≤ 2 ∧ (∀ url ∈ urls, host.serves url = true) ∧
      (urls ≠ [] → ∃ spec, PackageSpec.read text policy = .ok spec ∧ before.inventory.get? spec = none ∧
        before.tally.packageInstalls < policy.pkgMaxInstallsPerRun) := by
  have searching {spec : String} (read : PackageSpec.read text policy = .ok spec) : ∃ urls : List Url,
      ((find net policy host stamp spec).after before.journal).sent =
        before.journal.sent ++ urls.map (request policy ·.text) ∧
      urls.length ≤ 2 ∧ ∀ url ∈ urls, host.serves url = true := by
    obtain ⟨urls, route, asked⟩ := find_route net policy host spec before.journal stamp
    exact ⟨urls, asked, route.served web (PackageSpec.read_eq_ok read).2.2.2⟩
  have settles := obtain_settles net policy host stamp text before
  unfold Operation.after
  generalize obtain net policy host stamp text before = result at settles ⊢
  cases settles with
  | invalid unread => exact ⟨[], (List.append_nil _).symm, Nat.zero_le 2, nofun, nofun⟩
  | present read there => exact ⟨[], (List.append_nil _).symm, Nat.zero_le 2, nofun, nofun⟩
  | limited read absent reached => exact ⟨[], (List.append_nil _).symm, Nat.zero_le 2, nofun, nofun⟩
  | missed read absent room searched =>
    obtain ⟨urls, asked, few, served⟩ := searching read
    rw [after_of_error searched] at asked
    exact ⟨urls, asked, few, served, fun _ => ⟨_, read, absent, room⟩⟩
  | @found spec source record journal read absent room searched =>
    obtain ⟨urls, asked, few, served⟩ := searching read
    rw [after_of_ok searched] at asked
    exact ⟨urls, (sent_add _ record).trans asked, few, served, fun _ => ⟨_, read, absent, room⟩⟩

-- Where the document of a record comes from. It is the index, which is where it says it is or where it was asked for; or
-- it was asked for at the URL of the record.
inductive Origin (net : Network) (policy : Policy) (before last : Journal) (place entry : Url) (response : Response) :
    Prop where
  | index (asked : last.sent = before.sent ++ [request policy place.text])
      (answered : (net before.sent (request policy place.text)).outcome = .ok response)
      (final : ∀ url, Url.parse response.finalUrl = .ok url →
        url.text = entry.text ∧ (Imports.reexport? response.text = none → url = entry))
      (unreadable : ∀ error, Url.parse response.finalUrl = .error error → entry.text = place.text)
  | entry (asked : last.sent = before.sent ++ [request policy place.text] ++ [request policy entry.text])
      (answered : (net (before.sent ++ [request policy place.text]) (request policy entry.text)).outcome = .ok response)

theorem Origin.answers {before last : Journal} {place entry : Url} {response : Response}
    (origin : Origin net policy before last place entry response) : net.Answers before last response := by
  cases origin with
  | index asked answered final unreadable =>
    rw [← List.append_nil before.sent] at asked answered
    exact ⟨[], _, asked, answered⟩
  | entry asked answered => exact ⟨[_], _, asked, answered⟩

theorem Origin.congr {before last other : Journal} {place entry : Url} {response : Response}
    (same : other.sent = last.sent) (origin : Origin net policy before last place entry response) :
    Origin net policy before other place entry response := by
  cases origin with
  | index asked answered final unreadable => exact .index (same.trans asked) answered final unreadable
  | entry asked answered => exact .entry (same.trans asked) answered

theorem Indexed.origin {spec : String} {journal last : Journal} {place resolved entry : Url} {index : Response}
    (indexed : Indexed net policy host spec journal place resolved entry index) (same : entry.text = resolved.text)
    (asked : last.sent = journal.sent ++ [request policy place.text]) :
    Origin net policy journal last place entry index := by
  have resolved := indexed.final
  refine .index asked indexed.answered (fun url parsed => ?_) fun error unreadable => ?_
  · rw [parsed] at resolved
    cases resolved
    exact ⟨same.symm, fun itself => (entryUrl_itself itself indexed.entry).symm⟩
  · rw [unreadable] at resolved
    cases resolved
    exact same

theorem find_origin {spec source : String} {record : PackageRecord} {journal last : Journal}
    (found : find net policy host stamp spec journal = .ok (record, source) last) :
    record.spec = spec ∧ ∃ place entry response, host.indexOf spec = .ok place ∧ host.serves entry = true ∧
      record.entryUrl = entry.text ∧ Origin net policy journal last place entry response ∧
      Describes policy record source response := by
  have finds := find_finds net policy host spec journal stamp
  rw [found] at finds
  cases finds with
  | itself indexed same asked made =>
    obtain ⟨describes, named, url⟩ := recordOf_ok made
    exact ⟨named, _, _, _, indexed.found, entryUrl_serves indexed.entry, url, indexed.origin same asked, describes⟩
  | handedOn indexed other asked answered made =>
    obtain ⟨describes, named, url⟩ := recordOf_ok made
    exact ⟨named, _, _, _, indexed.found, entryUrl_serves indexed.entry, url, .entry asked answered, describes⟩

-- Asking for a package either fails and changes nothing but the journal, or finds it in the inventory, or adds one record
-- that tells of the document which came last. Requests go to the host of packages only, at most two of them, and none
-- where the text is no spec, the package is there or no install is left.
theorem obtain_exact (web : host.base.isHttp = true) (word : policy.pkgMaxModuleBytes ≤ greatestWord) (net : Network)
    (stamp text : String) (before : Installing) :
    (∃ urls : List Url, ((obtain net policy host stamp text).after before).journal.sent =
        before.journal.sent ++ urls.map (request policy ·.text) ∧
      urls.length ≤ 2 ∧ (∀ url ∈ urls, host.serves url = true) ∧
      (urls ≠ [] → ∃ spec, PackageSpec.read text policy = .ok spec ∧ before.inventory.get? spec = none ∧
        before.tally.packageInstalls < policy.pkgMaxInstallsPerRun)) ∧
      match obtain net policy host stamp text before with
      | .error _ after => after.inventory = before.inventory ∧ after.tally = before.tally ∧
          after.journal.persisted = before.journal.persisted
      | .ok ⟨record, none⟩ after => after = before ∧ before.inventory.get? (Text.trim text) = some record
      | .ok ⟨record, some source⟩ after => Installs net policy host text before record source after := by
  refine ⟨obtain_asks web net policy stamp text before, ?_⟩
  have settles := obtain_settles net policy host stamp text before
  generalize obtain net policy host stamp text before = result at settles ⊢
  cases settles with
  | invalid unread => exact ⟨rfl, rfl, rfl⟩
  | present read there =>
    rw [(PackageSpec.read_eq_ok read).1] at there
    exact ⟨rfl, there⟩
  | limited read absent reached => exact ⟨rfl, rfl, rfl⟩
  | @missed spec _ _ read absent room searched =>
    have traffic := find_moves net policy host stamp spec before.journal
    rw [after_of_error searched] at traffic
    exact ⟨rfl, rfl, Journal.persisted_of_sends traffic⟩
  | @found spec source record journal read absent room searched =>
    have traffic := find_moves net policy host stamp spec before.journal
    rw [after_of_ok searched] at traffic
    obtain ⟨rfl, place, entry, response, _, served, url, origin, describes⟩ := find_origin searched
    obtain ⟨earlier, last, sent, answered⟩ := origin.answers
    obtain ⟨trimmed, filled, short, allowed⟩ := PackageSpec.read_eq_ok read
    refine ⟨trimmed, filled, short, allowed, absent, Inventory.insert_absent absent, room, rfl, ?_,
      ⟨entry, served, url⟩, describes.digits, response, ⟨earlier, last, (sent_add _ record).trans sent, answered⟩,
      describes, describes.toNat_size word⟩
    refine (Journal.persisted_record journal _).trans ?_
    rw [Journal.persisted_of_sends traffic]
    rfl

-- An index that hands on the names of another module, and the digest of that one.
theorem obtain_exact_entry :
    let net := ((RouteTable.add {} "https://esm.sh/a" 200 "export * from '/a.mjs'").add "https://esm.sh/a.mjs" 200 "1").network
    let before : Installing := ⟨{}, .empty, {}⟩
    PackageHost.standard.base.isHttp = true ∧ ({} : Policy).pkgMaxModuleBytes ≤ greatestWord ∧
      ∃ record after, obtain net {} .standard "" " a " before = .ok ⟨record, some "1"⟩ after ∧
        Installs net {} .standard " a " before record "1" after ∧ record.entryUrl = "https://esm.sh/a.mjs" ∧
        record.sha256 = "6b86b273ff34fce19d6b804eff5a3f5747ada4eaa22f1d49c01e52ddb7875b4b" ∧ record.sizeBytes = 1 := by
  intro net before
  have web : PackageHost.standard.base.isHttp = true := by decide
  have word : ({} : Policy).pkgMaxModuleBytes ≤ greatestWord := by decide
  have test : ((obtain net {} .standard "" " a ").ending? before).any (fun ending =>
      ending.1.source == some "1" && ending.1.record.entryUrl == "https://esm.sh/a.mjs" &&
        ending.1.record.sha256 == "6b86b273ff34fce19d6b804eff5a3f5747ada4eaa22f1d49c01e52ddb7875b4b" &&
        ending.1.record.sizeBytes == 1) = true := by decide +kernel
  obtain ⟨⟨record, source⟩, after, obtained, test⟩ := ok_of_ending? test
  simp only [Bool.and_eq_true, beq_iff_eq] at test
  obtain ⟨⟨⟨rfl, url⟩, digest⟩, size⟩ := test
  have exact := (obtain_exact web word net "" " a " before).2
  rw [obtained] at exact
  exact ⟨web, word, record, after, obtained, exact, url, digest, size⟩

-- For every host, the code of a new package is that of a document which was asked for on the host of packages, or of the
-- index where that is found there.
theorem obtain_origin {before after : Installing} {record : PackageRecord} {source : String}
    (installed : obtain net policy host stamp text before = .ok ⟨record, some source⟩ after) :
    ∃ place entry response, host.indexOf record.spec = .ok place ∧ host.serves entry = true ∧
      record.entryUrl = entry.text ∧ Origin net policy before.journal after.journal place entry response ∧
      Describes policy record source response := by
  have settles := obtain_settles net policy host stamp text before
  rw [installed] at settles
  cases settles with
  | @found spec _ _ journal read absent room searched =>
    obtain ⟨rfl, place, entry, response, found, served, url, origin, describes⟩ := find_origin searched
    exact ⟨place, entry, response, found, served, url, origin.congr (sent_add _ record), describes⟩

-- An index that is found elsewhere on the host.
theorem obtain_origin_redirected :
    let net : Network := fun _ _ => ⟨some 0, .ok ⟨200, [], Text.utf8 "1", "https://esm.sh/a@1"⟩⟩
    let before : Installing := ⟨{}, .empty, {}⟩
    ∃ record after place entry response, obtain net {} .standard "" "a" before = .ok ⟨record, some "1"⟩ after ∧
      Origin net {} before.journal after.journal place entry response ∧ PackageHost.standard.serves entry = true ∧
      entry.text = "https://esm.sh/a@1" := by
  intro net before
  have test : ((obtain net {} .standard "" "a").ending? before).any (fun ending =>
      ending.1.source == some "1" && ending.1.record.entryUrl == "https://esm.sh/a@1") = true := by decide +kernel
  obtain ⟨⟨record, source⟩, after, obtained, test⟩ := ok_of_ending? test
  simp only [Bool.and_eq_true, beq_iff_eq] at test
  obtain ⟨rfl, url⟩ := test
  obtain ⟨place, entry, response, _, served, text, origin, _⟩ := obtain_origin obtained
  exact ⟨record, after, place, entry, response, obtained, origin, served, text.symm.trans url⟩

-- An install of the package `a` whose code is the text `1`, as a test for fixed networks.
def installsDigit (net : Network) (before : Installing) (sent : List Request) : Bool :=
  ((obtain net {} .standard "" "a").ending? before).any fun ending => ending.1.source == some "1" &&
    ending.2.journal.sent == sent && ending.1.record.sha256 == Digest.hexText (Digest.sha256 (Text.utf8 "1")) &&
    ending.1.record.sizeBytes == 1

theorem of_installsDigit {before : Installing} {sent : List Request} (tested : installsDigit net before sent = true) :
    ∃ record after, obtain net {} .standard "" "a" before = .ok ⟨record, some "1"⟩ after ∧ after.journal.sent = sent ∧
      ∀ url, Describes {} record "1" ⟨200, [], Text.utf8 "1", url⟩ := by
  obtain ⟨⟨record, source⟩, after, obtained, test⟩ := ok_of_ending? tested
  simp only [Bool.and_eq_true, beq_iff_eq] at test
  obtain ⟨⟨⟨rfl, sent⟩, digest⟩, size⟩ := test
  have length : (Text.utf8 "1").length = 1 := by decide +kernel
  have decoded : "1" = Text.decodeUtf8 (Text.utf8 "1") := by decide +kernel
  refine ⟨record, after, obtained, sent, fun url => ⟨digest, ?_, ?_, decoded⟩⟩
  · rw [size, Response.size, length]
    rfl
  · rw [Response.size, length]
    decide

-- What a document says of where it was found is not asked of an entry module that is another document than the index,
-- and it need not be a URL in an index.
theorem final_url_unasked :
    let moved : Network := fun sent _ => ⟨some 0, .ok (if sent.isEmpty
      then ⟨200, [], Text.utf8 "export * from '/a.mjs'", "https://esm.sh/a"⟩
      else ⟨200, [], Text.utf8 "1", "https://evil.test/a.mjs"⟩)⟩
    let lost : Network := fun _ _ => ⟨some 0, .ok ⟨200, [], Text.utf8 "1", "nowhere"⟩⟩
    let before : Installing := ⟨{}, .empty, {}⟩
    (∃ record after response final, obtain moved {} .standard "" "a" before = .ok ⟨record, some "1"⟩ after ∧
        moved.Answers before.journal after.journal response ∧ Describes {} record "1" response ∧
        Url.parse response.finalUrl = .ok final ∧ PackageHost.standard.serves final = false) ∧
      ∃ record after response error, obtain lost {} .standard "" "a" before = .ok ⟨record, some "1"⟩ after ∧
        lost.Answers before.journal after.journal response ∧ Describes {} record "1" response ∧
        Url.parse response.finalUrl = .error error := by
  intro moved lost before
  let index : Request := request {} "https://esm.sh/a"
  let entry : Request := request {} "https://esm.sh/a.mjs"
  constructor
  · have tested : installsDigit moved before [index, entry] = true := by decide +kernel
    obtain ⟨record, after, obtained, sent, describes⟩ := of_installsDigit tested
    have final : Url.parse "https://evil.test/a.mjs" =
        .ok ⟨"https", "", some "evil.test", none, "/a.mjs", none, none⟩ := toOption_eq_some (by decide +kernel)
    exact ⟨record, after, _, _, obtained, ⟨[index], entry, sent, rfl⟩, describes _, final, by decide⟩
  · have tested : installsDigit lost before [index] = true := by decide +kernel
    obtain ⟨record, after, obtained, sent, describes⟩ := of_installsDigit tested
    exact ⟨record, after, _, .relativeWithoutBase, obtained, ⟨[], index, sent, rfl⟩, describes _, rfl⟩

end Installing

end GuestSandbox
