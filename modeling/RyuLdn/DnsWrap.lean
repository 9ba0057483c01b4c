import RyuLdn.BigEndian

/-! The resolver of `dns_wrap.cpp` that stands in for `getaddrinfo`: a query with one
question is encoded, sent over UDP, and the addresses are read off the answer. A position
in a packet is an index. Where a byte is read, `none` means that it lies outside the
array, so the functions that read the answer return an `Option` of their result. -/
namespace RyuLdn.DnsWrap

open BigEndian

/-- The negative results: `-1`, and the negated `EAI_*` codes. -/
inductive DnsError where
  | malformed | again | noName | fail
  deriving DecidableEq

/-- The loop of `EncodeDnsName`. `src` is the rest of the host name, `buf` what has been
written. -/
def encodeLabels (bufSize : Nat) (src buf : List UInt8) : Option (List UInt8) :=
  if src = [] then some buf
  else
    let label := src.takeWhile (· ≠ 46)
    if label.length = 0 ∨ label.length > 63 then none
    else if buf.length + 1 + label.length + 1 > bufSize then none
    else
      let buf := buf ++ UInt8.ofNat label.length :: label
      if label.length < src.length then encodeLabels bufSize (src.drop (label.length + 1)) buf
      else some buf
termination_by src.length
decreasing_by
  rename_i more
  rw [List.length_drop]
  exact Nat.sub_lt (Nat.zero_lt_of_lt more) (Nat.succ_pos _)

def encodeDnsName (hostname : List UInt8) (bufSize : Nat) : Option (List UInt8) :=
  if bufSize = 0 then none
  else
    match encodeLabels bufSize hostname [] with
    | none => none
    | some buf => if buf.length + 1 > bufSize then none else some (buf ++ [0])

def buildDnsQuery (hostname : List UInt8) (queryId : UInt16) (packetSize : Nat) :
    Option (List UInt8) :=
  if hostname = [] then none
  else
    match encodeDnsName hostname 256 with
    | none => none
    | some name =>
        if 12 + name.length + 4 > packetSize then none
        else
          some (bytes 2 queryId.toNat ++ [0x01, 0x00] ++ [0x00, 0x01] ++ [0x00, 0x00] ++
            [0x00, 0x00] ++ [0x00, 0x00] ++ name ++ [0x00, 0x01] ++ [0x00, 0x01])

/-- The position behind the name at `p`; the inner `none` is the null pointer. -/
def skipDnsName (response : List UInt8) (p : Nat) : Option (Option Nat) :=
  if p < response.length then
    match response[p]? with
    | none => none
    | some labelLen =>
        if labelLen &&& 0xC0 = 0xC0 then
          some (if p + 2 > response.length then none else some (p + 2))
        else if labelLen = 0 then some (some (p + 1))
        else if p + 1 + labelLen.toNat > response.length then some none
        else skipDnsName response (p + 1 + labelLen.toNat)
  else some none
termination_by response.length - p

def skipQuestions (response : List UInt8) : (qdcount : Nat) → (p : Nat) → Option (Option Nat)
  | 0, p => some (some p)
  | qdcount + 1, p =>
      match skipDnsName response p with
      | none => none
      | some none => some none
      | some (some p) =>
          if p + 4 > response.length then some none else skipQuestions response qdcount (p + 4)

structure AnswerHead where
  rtype : Nat
  rclass : Nat
  rttl : Nat
  rdlength : Nat
  data : Nat

def readAnswer (response : List UInt8) (p : Nat) : Option (Option AnswerHead) :=
  match skipDnsName response p with
  | none => none
  | some none => some none
  | some (some p) =>
      if p + 10 > response.length then some none
      else
        match read response p 2, read response (p + 2) 2, read response (p + 4) 4,
          read response (p + 8) 2 with
        | some rtype, some rclass, some rttl, some rdlength =>
            if p + 10 + rdlength > response.length then some none
            else some (some ⟨rtype, rclass, rttl, rdlength, p + 10⟩)
        | _, _, _, _ => none

/-- What a call returns, and what it has written to `out_ips`. -/
structure Parsed where
  result : Except DnsError Nat
  outIps : List UInt32

/-- The loop over the answers, up to the `return` behind it. -/
def parseAnswers (response : List UInt8) (maxIps : Int) : (ancount : Nat) → (p : Nat) →
    (outIps : List UInt32) → Option Parsed
  | 0, _, outIps => some ⟨.ok outIps.length, outIps⟩
  | ancount + 1, p, outIps =>
      if outIps.length < maxIps then
        match readAnswer response p with
        | none => none
        | some none => some ⟨.error .malformed, outIps⟩
        | some (some answer) =>
            if answer.rtype = 1 ∧ answer.rclass = 1 ∧ answer.rdlength = 4 then
              if outIps.length < maxIps then
                match read response answer.data 4 with
                | none => none
                | some ip =>
                    parseAnswers response maxIps ancount (answer.data + answer.rdlength)
                      (outIps ++ [UInt32.ofNat ip])
              else parseAnswers response maxIps ancount (answer.data + answer.rdlength) outIps
            else parseAnswers response maxIps ancount (answer.data + answer.rdlength) outIps
      else some ⟨.ok outIps.length, outIps⟩

def checkFlags (flags : Nat) : Except DnsError Unit :=
  let rcode := flags &&& 0x000F
  if flags &&& 0x8000 = 0 then .error .malformed
  else if flags &&& 0x0200 ≠ 0 then .error .again
  else if rcode = 3 then .error .noName
  else if rcode = 2 ∨ rcode = 5 then .error .fail
  else if rcode ≠ 0 then .error .fail
  else .ok ()

def parseDnsResponse (response : List UInt8) (maxIps : Int) : Option Parsed :=
  if response.length < 12 ∨ maxIps ≤ 0 then some ⟨.error .malformed, []⟩
  else
    match read response 2 2, read response 6 2, read response 4 2 with
    | some flags, some ancount, some qdcount =>
        match checkFlags flags with
        | .error e => some ⟨.error e, []⟩
        | .ok () =>
            if ancount = 0 then some ⟨.error .noName, []⟩
            else
              match skipQuestions response qdcount 12 with
              | none => none
              | some none => some ⟨.error .malformed, []⟩
              | some (some p) =>
                  match parseAnswers response maxIps ancount p [] with
                  | some ⟨.ok ipCount, outIps⟩ =>
                      some ⟨if ipCount > 0 then .ok ipCount else .error .noName, outIps⟩
                  | other => other
    | _, _, _ => none

end RyuLdn.DnsWrap
