import RocketMQ.Broker

namespace RocketMQ

/-!
# Address text: printing and parsing in `std::net`

`ChangeInvisibleTimeProcessor::new` prints the broker's address and port with
`format!("{}:{}")` and reads the text back with `str::parse::<SocketAddr>`.  Both halves are
the standard library's: the `Display` of `Ipv4Addr` and `Ipv6Addr` (`core::net::ip_addr`) and
the recursive-descent `Parser` of `core::net::parser`.  This module models both after the
library's source.  A reader is a function from the unread input to an optional value and the
input it leaves, so `read_atomically` needs no counterpart: a failed read consumes nothing.

Two facts about the readers carry the later proofs: what a read consumes is a prefix of its
input made of the characters it accepts, and a read that stops before a character it cannot
take reads the same with more text after that character.
-/

/-- `char::to_digit(radix)` for a radix up to 36; a character that is no digit at all gets
the value `radix`, which no radix accepts. -/
def toDigit (radix : Nat) (c : Char) : Option Nat :=
  let digit :=
    if '0' ≤ c ∧ c ≤ '9' then c.toNat - '0'.toNat
    else if 'a' ≤ c ∧ c ≤ 'z' then c.toNat - 'a'.toNat + 10
    else if 'A' ≤ c ∧ c ≤ 'Z' then c.toNat - 'A'.toNat + 10
    else radix
  if digit < radix then some digit else none

/-- The kind of text an `AddrParseError` was reading. -/
inductive AddrKind where
  | ip
  | ipv4
  | ipv6
  | socket
  | socketV4
  | socketV6
  deriving DecidableEq

/-- `std::net::AddrParseError`. -/
structure AddrParseError where
  kind : AddrKind
  deriving DecidableEq

namespace AddrParser

/-- `read_separator`: the separator before every item but the first, then the item. -/
def readSeparator (separator : Char) (index : Nat) (inner : List Char → Option (α × List Char))
    (input : List Char) : Option (α × List Char) :=
  if index = 0 then inner input
  else
    match input with
    | c :: rest => if c = separator then inner rest else none
    | [] => none

/-- The digit loop of `read_number`: while the next character is a digit in `radix`, multiply
and add it with overflow checks in `bits` bits and count it against `maxDigits`.  It returns
the value, the count and the unread input, or `none` on an overflow or one digit too many. -/
def readDigits (bits radix : Nat) (maxDigits : Option Nat) (result : Unsigned bits)
    (count : Nat) : List Char → Option (Unsigned bits × Nat × List Char)
  | [] => some (result, count, [])
  | c :: rest =>
      match toDigit radix c with
      | none => some (result, count, c :: rest)
      | some digit =>
          if fits : result.val * radix + digit < 2 ^ bits then
            if maxDigits.all (fun limit => count + 1 ≤ limit) then
              readDigits bits radix maxDigits ⟨_, fits⟩ (count + 1) rest
            else none
          else none

/-- `read_number`: at least one digit, and no leading zero before more digits unless
`allowZeroPrefix`. -/
def readNumber (bits radix : Nat) (maxDigits : Option Nat) (allowZeroPrefix : Bool)
    (input : List Char) : Option (Unsigned bits × List Char) :=
  match readDigits bits radix maxDigits ⟨0, Nat.two_pow_pos bits⟩ 0 input with
  | none => none
  | some (result, count, rest) =>
      if count = 0 then none
      else if allowZeroPrefix = false ∧ input.head? = some '0' ∧ 1 < count then none
      else some (result, rest)

/-- An octet of `read_ipv4_addr`: at most three decimal digits, and no leading zero, which
would read as octal elsewhere. -/
def readOctet : List Char → Option (Unsigned 8 × List Char) :=
  readNumber 8 10 (some 3) false

/-- `read_ipv4_addr`: four octets separated by dots. -/
def readIpv4Addr (input : List Char) : Option (Ipv4Addr × List Char) := do
  let (a, input) ← readSeparator '.' 0 readOctet input
  let (b, input) ← readSeparator '.' 1 readOctet input
  let (c, input) ← readSeparator '.' 2 readOctet input
  let (d, input) ← readSeparator '.' 3 readOctet input
  pure (⟨a, b, c, d⟩, input)

/-- `u16::from_be_bytes`. -/
def fromBeBytes (high low : Unsigned 8) : Unsigned 16 :=
  ⟨high.val * 256 + low.val, by
    have highBound := high.lt
    have lowBound := low.lt
    norm_num at highBound lowBound ⊢
    omega⟩

/-- `read_groups` from slot `index` with `remaining` slots left: colon-separated hexadecimal
groups of at most four digits, ending at an embedded IPv4 address when at least two slots are
left for it.  It returns the groups read, whether the last two came from an IPv4 address, and
the unread input. -/
def readGroups : Nat → Nat → List Char → List (Unsigned 16) × Bool × List Char
  | _, 0, input => ([], false, input)
  | index, remaining + 1, input =>
      match (if 0 < remaining then readSeparator ':' index readIpv4Addr input else none) with
      | some (ipv4, rest) => ([fromBeBytes ipv4.a ipv4.b, fromBeBytes ipv4.c ipv4.d], true, rest)
      | none =>
          match readSeparator ':' index (readNumber 16 16 (some 4) true) input with
          | none => ([], false, input)
          | some (group, rest) =>
              let (groups, ipv4, rest) := readGroups (index + 1) remaining rest
              (group :: groups, ipv4, rest)

/-- `read_groups` fills at most the slots it is given. -/
theorem readGroups_length_le (index remaining : Nat) (input : List Char) :
    (readGroups index remaining input).1.length ≤ remaining := by
  induction remaining generalizing index input with
  | zero =>
      simp [readGroups]
  | succ remaining inductionHypothesis =>
      simp only [readGroups]
      split
      · rename_i embedded
        split at embedded
        · simp only [List.length_cons, List.length_nil]
          omega
        · cases embedded
      · split
        · simp
        · simpa using inductionHypothesis _ _

/-- The zero segment. -/
def zeroSegment : Unsigned 16 :=
  ⟨0, by norm_num⟩

/-- `read_ipv6_addr`: the groups up to `::` or all eight, then after `::` the groups that end
the address, the zeros between them filling the eight segments.  An IPv4 address may only come
last. -/
def readIpv6Addr (input : List Char) : Option (Ipv6Addr × List Char) :=
  let front := readGroups 0 8 input
  if full : front.1.length = 8 then some (⟨front.1, full⟩, front.2.2)
  else if front.2.1 then none
  else
    match front.2.2 with
    | ':' :: ':' :: rest =>
        let back := readGroups 0 (8 - (front.1.length + 1)) rest
        have frontBound : front.1.length ≤ 8 := readGroups_length_le 0 8 input
        have backBound : back.1.length ≤ 8 - (front.1.length + 1) :=
          readGroups_length_le 0 _ rest
        some (⟨front.1 ++ List.replicate (8 - front.1.length - back.1.length) zeroSegment ++
          back.1, by simp only [List.length_append, List.length_replicate]; omega⟩, back.2.2)
    | _ => none

/-- `read_port`: a colon, then a decimal `u16` that may have leading zeros. -/
def readPort : List Char → Option (Unsigned 16 × List Char)
  | ':' :: rest => readNumber 16 10 none true rest
  | _ => none

/-- `read_scope_id`: a percent sign, then a decimal `u32`. -/
def readScopeId : List Char → Option (Unsigned 32 × List Char)
  | '%' :: rest => readNumber 32 10 none true rest
  | _ => none

/-- `read_socket_addr_v4`: an IPv4 address, then a port. -/
def readSocketAddrV4 (input : List Char) : Option (SocketAddrV4 × List Char) := do
  let (ip, input) ← readIpv4Addr input
  let (port, input) ← readPort input
  pure (⟨ip, port⟩, input)

/-- The scope id `read_scope_id().unwrap_or(0)` reads, with the input it leaves: a failed read
consumes nothing and gives `0`. -/
def scopeIdOrZero (input : List Char) : Unsigned 32 × List Char :=
  (readScopeId input).getD (⟨0, by norm_num⟩, input)

/-- `read_socket_addr_v6`: an IPv6 address in brackets with an optional scope id, then a
port; the flow label is `0`. -/
def readSocketAddrV6 : List Char → Option (SocketAddrV6 × List Char)
  | '[' :: input => do
      let (ip, input) ← readIpv6Addr input
      let (scopeId, input) := scopeIdOrZero input
      match input with
      | ']' :: input =>
          let (port, input) ← readPort input
          pure (⟨ip, port, ⟨0, by norm_num⟩, scopeId⟩, input)
      | _ => none
  | _ => none

/-- `read_socket_addr`: an IPv4 socket address, or else an IPv6 one. -/
def readSocketAddr (input : List Char) : Option (SocketAddr × List Char) :=
  match readSocketAddrV4 input with
  | some (addr, rest) => some (.v4 addr, rest)
  | none => (readSocketAddrV6 input).map fun (addr, rest) => (.v6 addr, rest)

/-- `Parser::parse_with`: the read must consume the whole text. -/
def parseWith (reader : List Char → Option (α × List Char)) (kind : AddrKind) (text : String) :
    Except AddrParseError α :=
  match reader text.toList with
  | some (value, []) => .ok value
  | _ => .error ⟨kind⟩

end AddrParser

/-- `<Ipv4Addr as FromStr>::from_str`: `parse_ascii` refuses a text longer than fifteen before
it reads.  The library counts bytes; a text of at most fifteen characters and more bytes has a
character beyond ASCII, which the reader refuses as well. -/
def Ipv4Addr.fromStr (text : String) : Except AddrParseError Ipv4Addr :=
  if 15 < text.length then .error ⟨.ipv4⟩
  else AddrParser.parseWith AddrParser.readIpv4Addr .ipv4 text

/-- `<Ipv6Addr as FromStr>::from_str`. -/
def Ipv6Addr.fromStr (text : String) : Except AddrParseError Ipv6Addr :=
  AddrParser.parseWith AddrParser.readIpv6Addr .ipv6 text

/-- `<SocketAddr as FromStr>::from_str`. -/
def SocketAddr.fromStr (text : String) : Except AddrParseError SocketAddr :=
  AddrParser.parseWith AddrParser.readSocketAddr .socket text

/-- `Ipv6Addr::LOCALHOST`, the loopback address `::1`. -/
def Ipv6Addr.localhost : Ipv6Addr :=
  ⟨List.replicate 7 AddrParser.zeroSegment ++ [⟨1, by norm_num⟩], by rfl⟩

/-! ## Printing -/

/-- `Display` of `Ipv4Addr`: the four octets in decimal, separated by dots. -/
def Ipv4Addr.toText (ip : Ipv4Addr) : List Char :=
  ip.a.toText ++ '.' :: ip.b.toText ++ '.' :: ip.c.toText ++ '.' :: ip.d.toText

/-- `{:x}`: lowercase hexadecimal digits without leading zeros. -/
def hexDigits (n : Nat) : List Char :=
  if n < 16 then [Nat.digitChar n] else hexDigits (n / 16) ++ [Nat.digitChar (n % 16)]
decreasing_by omega

/-- A run of segments: where it starts and how long it is (`Span` of `Display for Ipv6Addr`). -/
structure Span where
  start : Nat
  len : Nat

/-- The loop of `Display for Ipv6Addr` that finds the first longest run of zero segments, at
segment `index` with the longest run and the current run so far. -/
def longestZeroSpan (index : Nat) (longest current : Span) : List (Unsigned 16) → Span
  | [] => longest
  | segment :: rest =>
      if segment.val = 0 then
        let current : Span := ⟨if current.len = 0 then index else current.start, current.len + 1⟩
        longestZeroSpan (index + 1) (if current.len > longest.len then current else longest)
          current rest
      else longestZeroSpan (index + 1) longest ⟨0, 0⟩ rest

/-- `fmt_subslice`: segments in hexadecimal separated by colons. -/
def fmtSubslice : List (Unsigned 16) → List Char
  | [] => []
  | [last] => hexDigits last.val
  | first :: rest => hexDigits first.val ++ ':' :: fmtSubslice rest

/-- The high byte of a segment. -/
def Unsigned.highByte (segment : Unsigned 16) : Unsigned 8 :=
  ⟨segment.val / 256, by have bound := segment.lt; norm_num at bound ⊢; omega⟩

/-- The low byte of a segment. -/
def Unsigned.lowByte (segment : Unsigned 16) : Unsigned 8 :=
  ⟨segment.val % 256, by norm_num; omega⟩

/-- `Ipv6Addr::to_ipv4_mapped`: the IPv4 address of `::ffff:a.b.c.d`. -/
def Ipv6Addr.toIpv4Mapped (ip : Ipv6Addr) : Option Ipv4Addr :=
  match ip.segments with
  | [⟨0, _⟩, ⟨0, _⟩, ⟨0, _⟩, ⟨0, _⟩, ⟨0, _⟩, ⟨65535, _⟩, high, low] =>
      some ⟨high.highByte, high.lowByte, low.highByte, low.lowByte⟩
  | _ => none

/-- `Display` of `Ipv6Addr`: an IPv4-mapped address as `::ffff:` and its IPv4 text; otherwise
the segments in hexadecimal, the first longest run of at least two zero segments written
`::`. -/
def Ipv6Addr.toText (ip : Ipv6Addr) : List Char :=
  match ip.toIpv4Mapped with
  | some ipv4 => ':' :: ':' :: 'f' :: 'f' :: 'f' :: 'f' :: ':' :: ipv4.toText
  | none =>
      let zeroes := longestZeroSpan 0 ⟨0, 0⟩ ⟨0, 0⟩ ip.segments
      if 1 < zeroes.len then
        fmtSubslice (ip.segments.take zeroes.start) ++ ':' :: ':' ::
          fmtSubslice (ip.segments.drop (zeroes.start + zeroes.len))
      else fmtSubslice ip.segments

/-! ## What a read consumes -/

/-- A read consumed a prefix of `input`, leaving `rest`, and every character it consumed
satisfies `accepted`. -/
def Consumed (accepted : Char → Prop) (input rest : List Char) : Prop :=
  ∃ consumed, input = consumed ++ rest ∧ ∀ c ∈ consumed, accepted c

namespace Consumed

variable {accepted : Char → Prop}

/-- Consuming nothing. -/
theorem refl (input : List Char) : Consumed accepted input input :=
  ⟨[], rfl, by simp⟩

/-- Consuming one accepted character, then more. -/
theorem cons {c : Char} {input rest : List Char} (isAccepted : accepted c)
    (more : Consumed accepted input rest) : Consumed accepted (c :: input) rest := by
  obtain ⟨consumed, rfl, allAccepted⟩ := more
  exact ⟨c :: consumed, rfl, by simpa [isAccepted] using allAccepted⟩

/-- Two reads one after the other. -/
theorem trans {input middle rest : List Char} (first : Consumed accepted input middle)
    (second : Consumed accepted middle rest) : Consumed accepted input rest := by
  obtain ⟨firstPart, rfl, firstAccepted⟩ := first
  obtain ⟨secondPart, rfl, secondAccepted⟩ := second
  refine ⟨firstPart ++ secondPart, (List.append_assoc _ _ _).symm, ?_⟩
  simp only [List.mem_append]
  rintro c (member | member)
  exacts [firstAccepted c member, secondAccepted c member]

/-- Accepting more characters. -/
theorem mono {weaker : Char → Prop} (implies : ∀ c, accepted c → weaker c)
    {input rest : List Char} (read : Consumed accepted input rest) :
    Consumed weaker input rest := by
  obtain ⟨consumed, shape, allAccepted⟩ := read
  exact ⟨consumed, shape, fun c member => implies c (allAccepted c member)⟩

/-- What is left is part of the input. -/
theorem mem_of_mem {input rest : List Char} (read : Consumed accepted input rest) {c : Char}
    (member : c ∈ rest) : c ∈ input := by
  obtain ⟨consumed, rfl, -⟩ := read
  exact List.mem_append_right _ member

/-- Consuming only characters other than `c` leaves every occurrence of `c`. -/
theorem count_eq {c : Char} (notAccepted : ¬ accepted c) {input rest : List Char}
    (read : Consumed accepted input rest) : input.count c = rest.count c := by
  obtain ⟨consumed, rfl, allAccepted⟩ := read
  have absent : c ∉ consumed := fun member => notAccepted (allAccepted c member)
  simp [List.count_append, List.count_eq_zero.mpr absent]

end Consumed

/-- A digit prints as a character that reads back as it in every radix above it. -/
theorem toDigit_digitChar {radix d : Nat} (isDigit : d < 10) (accepted : d < radix) :
    toDigit radix (Nat.digitChar d) = some d := by
  interval_cases d <;> exact if_pos accepted

/-- A character that is neither a digit nor a letter is a digit in no radix. -/
theorem toDigit_eq_none {c : Char} (notDigit : ¬ ('0' ≤ c ∧ c ≤ '9'))
    (notLower : ¬ ('a' ≤ c ∧ c ≤ 'z')) (notUpper : ¬ ('A' ≤ c ∧ c ≤ 'Z')) (radix : Nat) :
    toDigit radix c = none := by
  simp [toDigit, notDigit, notLower, notUpper]

@[simp] theorem toDigit_colon (radix : Nat) : toDigit radix ':' = none :=
  toDigit_eq_none (by decide) (by decide) (by decide) radix

@[simp] theorem toDigit_dot (radix : Nat) : toDigit radix '.' = none :=
  toDigit_eq_none (by decide) (by decide) (by decide) radix

@[simp] theorem toDigit_openBracket (radix : Nat) : toDigit radix '[' = none :=
  toDigit_eq_none (by decide) (by decide) (by decide) radix

namespace AddrParser

/-- The digit loop consumes digits. -/
theorem readDigits_consumes {bits radix : Nat} {maxDigits : Option Nat} {result : Unsigned bits}
    {count : Nat} {input : List Char} {value : Unsigned bits} {total : Nat} {rest : List Char}
    (read : readDigits bits radix maxDigits result count input = some (value, total, rest)) :
    Consumed (fun c => (toDigit radix c).isSome) input rest := by
  induction input generalizing result count with
  | nil =>
      cases read
      exact .refl _
  | cons c tail inductionHypothesis =>
      simp only [readDigits] at read
      split at read
      · cases read
        exact .refl _
      · rename_i digit isDigit
        split at read
        · split at read
          · exact .cons (by simp [isDigit]) (inductionHypothesis read)
          · cases read
        · cases read

/-- `read_number` consumes digits. -/
theorem readNumber_consumes {bits radix : Nat} {maxDigits : Option Nat} {allowZeroPrefix : Bool}
    {input : List Char} {value : Unsigned bits} {rest : List Char}
    (read : readNumber bits radix maxDigits allowZeroPrefix input = some (value, rest)) :
    Consumed (fun c => (toDigit radix c).isSome) input rest := by
  unfold readNumber at read
  split at read
  · cases read
  · rename_i loop
    split_ifs at read
    cases read
    exact readDigits_consumes loop

/-- `read_separator` consumes the separator, then what the item consumes. -/
theorem readSeparator_consumes {accepted : Char → Prop} {separator : Char}
    (separatorAccepted : accepted separator) {inner : List Char → Option (α × List Char)}
    (innerConsumes : ∀ {input value rest}, inner input = some (value, rest) →
      Consumed accepted input rest)
    {index : Nat} {input : List Char} {value : α} {rest : List Char}
    (read : readSeparator separator index inner input = some (value, rest)) :
    Consumed accepted input rest := by
  unfold readSeparator at read
  split_ifs at read
  · exact innerConsumes read
  · split at read
    · split_ifs at read with isSeparator
      subst isSeparator
      exact .cons separatorAccepted (innerConsumes read)
    · cases read

/-- The four reads of `read_ipv4_addr`. -/
theorem readIpv4Addr_eq_some {input : List Char} {ip : Ipv4Addr} {rest : List Char}
    (read : readIpv4Addr input = some (ip, rest)) :
    ∃ first second third, readSeparator '.' 0 readOctet input = some (ip.a, first) ∧
      readSeparator '.' 1 readOctet first = some (ip.b, second) ∧
      readSeparator '.' 2 readOctet second = some (ip.c, third) ∧
      readSeparator '.' 3 readOctet third = some (ip.d, rest) := by
  simp only [readIpv4Addr, Option.bind_eq_bind, Option.bind_eq_some, Option.pure_def,
    Option.some.injEq, Prod.exists] at read
  obtain ⟨a, first, firstRead, b, second, secondRead, c, third, thirdRead, d, last, lastRead,
    rfl, rfl⟩ := read
  exact ⟨first, second, third, firstRead, secondRead, thirdRead, lastRead⟩

/-- `read_ipv4_addr` consumes decimal digits and dots. -/
theorem readIpv4Addr_consumes {input : List Char} {ip : Ipv4Addr} {rest : List Char}
    (read : readIpv4Addr input = some (ip, rest)) :
    Consumed (fun c => c = '.' ∨ (toDigit 10 c).isSome) input rest := by
  have octet : ∀ {index input value rest}, readSeparator '.' index readOctet input =
      some (value, rest) → Consumed (fun c => c = '.' ∨ (toDigit 10 c).isSome) input rest :=
    readSeparator_consumes (.inl rfl) fun read => (readNumber_consumes read).mono fun _ => .inr
  obtain ⟨first, second, third, a, b, c, d⟩ := readIpv4Addr_eq_some read
  exact (octet a).trans ((octet b).trans ((octet c).trans (octet d)))

/-- `read_port` consumes a colon, then decimal digits. -/
theorem readPort_eq_some {input : List Char} {port : Unsigned 16} {rest : List Char}
    (read : readPort input = some (port, rest)) :
    ∃ digits, input = ':' :: digits ∧ Consumed (fun c => (toDigit 10 c).isSome) digits rest := by
  unfold readPort at read
  split at read
  · exact ⟨_, rfl, readNumber_consumes read⟩
  · cases read

/-- A socket address read as IPv4 consumes exactly one colon, the one before its port. -/
theorem readSocketAddrV4_count_colon {input : List Char} {addr : SocketAddrV4} {rest : List Char}
    (read : readSocketAddrV4 input = some (addr, rest)) :
    input.count ':' = rest.count ':' + 1 := by
  simp only [readSocketAddrV4, Option.bind_eq_bind, Option.bind_eq_some, Option.pure_def,
    Option.some.injEq, Prod.exists] at read
  obtain ⟨ip, middle, ipRead, port, last, portRead, -, rfl⟩ := read
  obtain ⟨digits, rfl, portDigits⟩ := readPort_eq_some portRead
  rw [(readIpv4Addr_consumes ipRead).count_eq (by simp), List.count_cons_self,
    portDigits.count_eq (by simp)]

/-- An IPv6 socket address opens with a bracket. -/
theorem readSocketAddrV6_of_head {input : List Char} (noBracket : input.head? ≠ some '[') :
    readSocketAddrV6 input = none := by
  unfold readSocketAddrV6
  split
  · exact absurd rfl noBracket
  · rfl

/-- A reader that never reads the whole text fails to parse it. -/
theorem parseWith_of_partial {reader : List Char → Option (α × List Char)} {kind : AddrKind}
    {text : String} (neverWhole : ∀ value, reader text.toList ≠ some (value, [])) :
    parseWith reader kind text = .error ⟨kind⟩ := by
  unfold parseWith
  split
  · exact absurd ‹_› (neverWhole _)
  · rfl

/-- Parsing succeeds exactly on a whole read. -/
theorem parseWith_eq_ok {reader : List Char → Option (α × List Char)} {kind : AddrKind}
    {text : String} {value : α} (parsed : parseWith reader kind text = .ok value) :
    reader text.toList = some (value, []) := by
  unfold parseWith at parsed
  split at parsed
  · cases parsed
    assumption
  · cases parsed

end AddrParser

/-- A host that holds a colon and does not open with a bracket, followed by a colon and
anything, is no socket address: read as IPv4 it has a colon too many, and IPv6 needs the
brackets. -/
theorem SocketAddr.fromStr_of_colon {host tail : String} (hasColon : ':' ∈ host.toList)
    (noBracket : host.toList.head? ≠ some '[') :
    SocketAddr.fromStr (host ++ ":" ++ tail) = .error ⟨.socket⟩ := by
  have text : (host ++ ":" ++ tail).toList = host.toList ++ ':' :: tail.toList := by
    simp [String.toList]
  have twoColons : 2 ≤ (host.toList ++ ':' :: tail.toList).count ':' := by
    have := List.count_pos_iff.mpr hasColon
    simp only [List.count_append, List.count_cons_self]
    omega
  apply AddrParser.parseWith_of_partial
  intro value whole
  rw [text] at whole
  unfold AddrParser.readSocketAddr at whole
  split at whole
  · rename_i addr rest v4Read
    cases whole
    have := AddrParser.readSocketAddrV4_count_colon v4Read
    simp only [List.count_nil] at this
    omega
  · obtain ⟨first, others, shape⟩ := List.exists_cons_of_ne_nil (List.ne_nil_of_mem hasColon)
    rw [AddrParser.readSocketAddrV6_of_head (by simpa [shape] using noBracket)] at whole
    cases whole

/-! ## IPv6 text -/

namespace AddrParser

/-- A number opens with a digit. -/
theorem readNumber_of_head {bits radix : Nat} {maxDigits : Option Nat} {allowZeroPrefix : Bool}
    {c : Char} (notDigit : toDigit radix c = none) (tail : List Char) :
    readNumber bits radix maxDigits allowZeroPrefix (c :: tail) = none := by
  simp [readNumber, readDigits, notDigit]

/-- An IPv4 address opens with a decimal digit. -/
theorem readIpv4Addr_of_head {c : Char} (notDigit : toDigit 10 c = none) (tail : List Char) :
    readIpv4Addr (c :: tail) = none := by
  simp [readIpv4Addr, readSeparator, readOctet, readNumber_of_head notDigit]

/-- An IPv4 address never opens with a bracket. -/
theorem readIpv4Addr_head {input : List Char} {ip : Ipv4Addr} {rest : List Char}
    (read : readIpv4Addr input = some (ip, rest)) : input.head? ≠ some '[' := by
  intro bracket
  rw [List.eq_cons_of_mem_head? bracket, readIpv4Addr_of_head (toDigit_openBracket 10)] at read
  cases read

/-- Without a colon in the input, a separator other than the first is missing. -/
theorem readSeparator_of_colonFree {inner : List Char → Option (α × List Char)} {index : Nat}
    (later : 0 < index) {input : List Char} (colonFree : ':' ∉ input) :
    readSeparator ':' index inner input = none := by
  unfold readSeparator
  rw [if_neg (by omega)]
  split
  · rw [if_neg (by rintro rfl; simp at colonFree)]
  · rfl

/-- Without a colon in the input, no group after the first is read. -/
theorem readGroups_of_colonFree {index : Nat} (later : 0 < index) (remaining : Nat)
    {input : List Char} (colonFree : ':' ∉ input) :
    readGroups index remaining input = ([], false, input) := by
  cases remaining with
  | zero =>
      rfl
  | succ remaining =>
      simp [readGroups, readSeparator_of_colonFree later colonFree]

/-- Without a colon in the input, the groups of an IPv6 address are at most two, an IPv4
address or a single group, and leave no colon. -/
theorem readGroups_of_colonFree_zero (remaining : Nat) {input : List Char}
    (colonFree : ':' ∉ input) :
    (readGroups 0 remaining input).1.length ≤ 2 ∧ ':' ∉ (readGroups 0 remaining input).2.2 := by
  cases remaining with
  | zero =>
      simpa [readGroups] using colonFree
  | succ remaining =>
      simp only [readGroups]
      split
      · rename_i ipv4 rest embedded
        split at embedded
        · have ipv4Read : readIpv4Addr input = some (ipv4, rest) := by
            simpa [readSeparator] using embedded
          exact ⟨by simp, fun member =>
            colonFree ((readIpv4Addr_consumes ipv4Read).mem_of_mem member)⟩
        · cases embedded
      · split
        · simpa using colonFree
        · rename_i group rest groupRead
          have restFree : ':' ∉ rest := fun member => colonFree
            ((readNumber_consumes (by simpa [readSeparator] using groupRead)).mem_of_mem member)
          rw [readGroups_of_colonFree (show 0 < 1 by norm_num) remaining restFree]
          simpa using restFree

/-- An IPv6 address holds a colon: eight groups have seven between them, and fewer need
`::`. -/
theorem readIpv6Addr_colon {input : List Char} {ip : Ipv6Addr} {rest : List Char}
    (read : readIpv6Addr input = some (ip, rest)) : ':' ∈ input := by
  by_contra colonFree
  obtain ⟨short, restFree⟩ := readGroups_of_colonFree_zero 8 colonFree
  unfold readIpv6Addr at read
  dsimp only at read
  rw [dif_neg (by omega)] at read
  split_ifs at read
  split at read
  · rename_i tail frontRest
    exact restFree (by simp [frontRest])
  · cases read

/-- An IPv6 address never opens with a bracket. -/
theorem readIpv6Addr_bracket (tail : List Char) : readIpv6Addr ('[' :: tail) = none := by
  have noGroups : readGroups 0 8 ('[' :: tail) = ([], false, '[' :: tail) := by
    simp [readGroups, readSeparator, readIpv4Addr_of_head, readNumber_of_head]
  simp [readIpv6Addr, noGroups]

/-- The text an IPv6 address is read from holds a colon and does not open with a bracket. -/
theorem readIpv6Addr_text {input : List Char} {ip : Ipv6Addr} {rest : List Char}
    (read : readIpv6Addr input = some (ip, rest)) :
    ':' ∈ input ∧ input.head? ≠ some '[' := by
  refine ⟨readIpv6Addr_colon read, fun bracket => ?_⟩
  rw [List.eq_cons_of_mem_head? bracket, readIpv6Addr_bracket] at read
  cases read

end AddrParser

/-- The text of a parsed IPv6 address holds a colon and does not open with a bracket. -/
theorem Ipv6Addr.fromStr_colon {text : String} {ip : Ipv6Addr}
    (parsed : Ipv6Addr.fromStr text = .ok ip) :
    ':' ∈ text.toList ∧ text.toList.head? ≠ some '[' :=
  AddrParser.readIpv6Addr_text (AddrParser.parseWith_eq_ok parsed)

/-- Printed hexadecimal digits open with a digit. -/
theorem hexDigits_head (n : Nat) :
    ∃ d rest, d < 16 ∧ hexDigits n = Nat.digitChar d :: rest := by
  induction n using hexDigits.induct with
  | case1 n small =>
      exact ⟨n, [], small, by rw [hexDigits, if_pos small]⟩
  | case2 n large inductionHypothesis =>
      obtain ⟨d, rest, isDigit, shape⟩ := inductionHypothesis
      exact ⟨d, rest ++ [Nat.digitChar (n % 16)], isDigit,
        by rw [hexDigits, if_neg large, shape, List.cons_append]⟩

/-- A hexadecimal digit is neither a colon nor a bracket. -/
theorem digitChar_ne {d : Nat} (isDigit : d < 16) :
    Nat.digitChar d ≠ ':' ∧ Nat.digitChar d ≠ '[' := by
  interval_cases d <;> decide

/-- Printed segments open with a hexadecimal digit. -/
theorem fmtSubslice_head {segments : List (Unsigned 16)} (nonempty : segments ≠ []) :
    ∃ d rest, d < 16 ∧ fmtSubslice segments = Nat.digitChar d :: rest := by
  match segments, nonempty with
  | [last], _ =>
      exact hexDigits_head last.val
  | first :: second :: others, _ =>
      obtain ⟨d, rest, isDigit, shape⟩ := hexDigits_head first.val
      exact ⟨d, rest ++ ':' :: fmtSubslice (second :: others), isDigit,
        by rw [fmtSubslice, shape, List.cons_append]; exact List.cons_ne_nil _ _⟩

/-- Two segments or more print with a colon between them. -/
theorem fmtSubslice_colon {segments : List (Unsigned 16)} (two : 2 ≤ segments.length) :
    ':' ∈ fmtSubslice segments := by
  match segments, two with
  | first :: second :: others, _ =>
      simp [fmtSubslice]

/-- The text of an IPv6 address holds a colon and does not open with a bracket. -/
theorem Ipv6Addr.toText_colon (ip : Ipv6Addr) :
    ':' ∈ ip.toText ∧ ip.toText.head? ≠ some '[' := by
  unfold Ipv6Addr.toText
  split
  · simp
  · dsimp only
    split_ifs
    · refine ⟨by simp, ?_⟩
      by_cases before : ip.segments.take (longestZeroSpan 0 ⟨0, 0⟩ ⟨0, 0⟩ ip.segments).start = []
      · simp [before, fmtSubslice]
      · obtain ⟨d, rest, isDigit, shape⟩ := fmtSubslice_head before
        simp [shape, (digitChar_ne isDigit).2]
    · have nonempty : ip.segments ≠ [] := by
        rw [← List.length_pos, ip.eight]
        norm_num
      obtain ⟨d, rest, isDigit, shape⟩ := fmtSubslice_head nonempty
      exact ⟨fmtSubslice_colon (by rw [ip.eight]; norm_num),
        by simp [shape, (digitChar_ne isDigit).2]⟩

/-! ## IPv4 text with a port -/

/-- Printed digits open with a zero only for zero itself. -/
theorem decimalDigits_head_zero {n : Nat} (zeroHead : (decimalDigits n).head? = some '0') :
    n = 0 := by
  induction n using decimalDigits.induct with
  | case1 n small =>
      rw [decimalDigits, if_pos small] at zeroHead
      interval_cases n <;> first | rfl | cases zeroHead
  | case2 n large inductionHypothesis =>
      obtain ⟨d, rest, -, shape⟩ := decimalDigits_head (n / 10)
      rw [decimalDigits, if_neg large, List.head?_append, shape] at zeroHead
      have := inductionHypothesis (by rw [shape]; exact zeroHead)
      omega

/-- A number below `10 ^ (k + 1)` prints with at most `k + 1` digits. -/
theorem decimalDigits_length_le {n k : Nat} (small : n < 10 ^ (k + 1)) :
    (decimalDigits n).length ≤ k + 1 := by
  induction n using decimalDigits.induct generalizing k with
  | case1 n isDigit =>
      rw [decimalDigits, if_pos isDigit]
      simp
  | case2 n large inductionHypothesis =>
      cases k with
      | zero =>
          norm_num at small
          omega
      | succ k =>
          have prefixSmall : n / 10 < 10 ^ (k + 1) := by
            rw [Nat.div_lt_iff_lt_mul (by norm_num), ← pow_succ]
            exact small
          rw [decimalDigits, if_neg large, List.length_append, List.length_singleton]
          have := inductionHypothesis prefixSmall
          omega

/-- An octet prints with at most three digits. -/
theorem octet_toText_length_le (x : Unsigned 8) : x.toText.length ≤ 3 :=
  decimalDigits_length_le (by have := x.lt; norm_num at this ⊢; omega)

/-- A printed IPv4 address is at most fifteen characters long. -/
theorem Ipv4Addr.toText_length_le (ip : Ipv4Addr) : ip.toText.length ≤ 15 := by
  have := octet_toText_length_le ip.a
  have := octet_toText_length_le ip.b
  have := octet_toText_length_le ip.c
  have := octet_toText_length_le ip.d
  simp only [Ipv4Addr.toText, List.length_append, List.length_cons]
  omega

namespace AddrParser

/-- The digit loop stops at a character that is no digit, and at the end of the input. -/
theorem readDigits_stop {bits radix : Nat} {maxDigits : Option Nat} (result : Unsigned bits)
    (count : Nat) {input : List Char} (stops : ∀ c ∈ input.head?, toDigit radix c = none) :
    readDigits bits radix maxDigits result count input = some (result, count, input) := by
  cases input with
  | nil =>
      rfl
  | cons c tail =>
      simp [readDigits, stops c rfl]

/-- One digit of the loop, when it fits and is not one too many. -/
theorem readDigits_digit {bits radix : Nat} {maxDigits : Option Nat} {result next : Unsigned bits}
    {count d : Nat} {c : Char} (isDigit : toDigit radix c = some d)
    (nextVal : next.val = result.val * radix + d)
    (notTooMany : maxDigits.all (fun limit => count + 1 ≤ limit)) (rest : List Char) :
    readDigits bits radix maxDigits result count (c :: rest) =
      readDigits bits radix maxDigits next (count + 1) rest := by
  have fits : result.val * radix + d < 2 ^ bits := nextVal ▸ next.lt
  have same : (⟨result.val * radix + d, fits⟩ : Unsigned bits) = next :=
    Unsigned.ext nextVal.symm
  simp only [readDigits, isDigit, dif_pos fits, notTooMany, if_true, same]

/-- The digit loop reads the printed digits of a number that fits, and goes on after them
with that number and their count. -/
theorem readDigits_decimalDigits {bits : Nat} {maxDigits : Option Nat} {n : Nat}
    (fits : n < 2 ^ bits)
    (fewDigits : maxDigits.all (fun limit => (decimalDigits n).length ≤ limit))
    (rest : List Char) :
    readDigits bits 10 maxDigits ⟨0, Nat.two_pow_pos bits⟩ 0 (decimalDigits n ++ rest) =
      readDigits bits 10 maxDigits ⟨n, fits⟩ (decimalDigits n).length rest := by
  induction n using decimalDigits.induct generalizing rest with
  | case1 n small =>
      rw [decimalDigits, if_pos small] at fewDigits ⊢
      exact readDigits_digit (toDigit_digitChar small small) (by simp) fewDigits rest
  | case2 n large inductionHypothesis =>
      have unfolded : decimalDigits n = decimalDigits (n / 10) ++ [Nat.digitChar (n % 10)] := by
        rw [decimalDigits, if_neg large]
      rw [unfolded, List.length_append, List.length_singleton] at fewDigits ⊢
      have prefixFew : maxDigits.all (fun limit => (decimalDigits (n / 10)).length ≤ limit) := by
        cases maxDigits <;> simp_all
        omega
      rw [List.append_assoc, List.singleton_append,
        inductionHypothesis (by omega) prefixFew]
      exact readDigits_digit (toDigit_digitChar (Nat.mod_lt n (by norm_num)) (by omega))
        (by simp only; omega) fewDigits rest

/-- Without a digit limit, the digit loop refuses the printed digits of a number that does
not fit. -/
theorem readDigits_decimalDigits_overflow {bits n : Nat} (overflows : 2 ^ bits ≤ n)
    (rest : List Char) :
    readDigits bits 10 none ⟨0, Nat.two_pow_pos bits⟩ 0 (decimalDigits n ++ rest) = none := by
  induction n using decimalDigits.induct generalizing rest with
  | case1 n small =>
      rw [decimalDigits, if_pos small]
      simp [readDigits, toDigit_digitChar small small, not_lt.mpr overflows]
  | case2 n large inductionHypothesis =>
      rw [decimalDigits, if_neg large, List.append_assoc, List.singleton_append]
      by_cases prefixFits : n / 10 < 2 ^ bits
      · rw [@readDigits_decimalDigits bits none _ prefixFits rfl]
        have stepOverflows : ¬ (n / 10) * 10 + n % 10 < 2 ^ bits := by omega
        have lastDigit : n % 10 < 10 := Nat.mod_lt n (by norm_num)
        simp [readDigits, @toDigit_digitChar 10 _ lastDigit lastDigit, stepOverflows]
      · exact inductionHypothesis (by omega) _

/-- `read_number` reads the printed digits of a number that fits, up to the first character
that is no decimal digit. -/
theorem readNumber_decimalDigits {bits : Nat} {maxDigits : Option Nat} {allowZeroPrefix : Bool}
    {n : Nat} (fits : n < 2 ^ bits)
    (fewDigits : maxDigits.all (fun limit => (decimalDigits n).length ≤ limit))
    {rest : List Char} (stops : ∀ c ∈ rest.head?, toDigit 10 c = none) :
    readNumber bits 10 maxDigits allowZeroPrefix (decimalDigits n ++ rest) =
      some (⟨n, fits⟩, rest) := by
  obtain ⟨d, digits, -, shape⟩ := decimalDigits_head n
  have notZeroPrefix : ¬ ((decimalDigits n ++ rest).head? = some '0' ∧
      1 < (decimalDigits n).length) := by
    rintro ⟨zeroHead, long⟩
    rw [List.head?_append, shape] at zeroHead
    have isZero := decimalDigits_head_zero (by rw [shape]; exact zeroHead)
    subst isZero
    simp [decimalDigits] at long
  unfold readNumber
  rw [readDigits_decimalDigits fits fewDigits, readDigits_stop _ _ stops]
  dsimp only
  rw [if_neg (by simp [shape]),
    if_neg fun ⟨_, zeroHead, long⟩ => notZeroPrefix ⟨zeroHead, long⟩]

/-- The digit loop reads the same with more text after where it stopped, when that text does
not go on with a digit. -/
theorem readDigits_append {bits radix : Nat} {maxDigits : Option Nat} {result : Unsigned bits}
    {count : Nat} {input : List Char} {value : Unsigned bits} {total : Nat} {rest : List Char}
    (read : readDigits bits radix maxDigits result count input = some (value, total, rest))
    {more : List Char} (stops : ∀ c ∈ (rest ++ more).head?, toDigit radix c = none) :
    readDigits bits radix maxDigits result count (input ++ more) =
      some (value, total, rest ++ more) := by
  induction input generalizing result count with
  | nil =>
      cases read
      exact readDigits_stop _ _ stops
  | cons c tail inductionHypothesis =>
      simp only [readDigits] at read
      simp only [List.cons_append, readDigits]
      split at read
      · rename_i notDigit
        cases read
        simp [notDigit]
      · split_ifs at read ⊢
        exact inductionHypothesis read

/-- `read_number` reads the same with more text after where it stopped, when that text does
not go on with a digit. -/
theorem readNumber_append {bits radix : Nat} {maxDigits : Option Nat} {allowZeroPrefix : Bool}
    {input : List Char} {value : Unsigned bits} {rest : List Char}
    (read : readNumber bits radix maxDigits allowZeroPrefix input = some (value, rest))
    {more : List Char} (stops : ∀ c ∈ (rest ++ more).head?, toDigit radix c = none) :
    readNumber bits radix maxDigits allowZeroPrefix (input ++ more) =
      some (value, rest ++ more) := by
  unfold readNumber at read ⊢
  split at read
  · cases read
  · rename_i result count unread loop
    split_ifs at read with noDigits zeroPrefix
    cases read
    cases input with
    | nil =>
        cases loop
        exact absurd rfl noDigits
    | cons c tail =>
        rw [readDigits_append loop stops]
        simp only [List.cons_append, List.head?_cons] at zeroPrefix ⊢
        rw [if_neg noDigits, if_neg zeroPrefix]

/-- `read_separator` reads the same with more text after where its item stopped. -/
theorem readSeparator_append {separator : Char} {index : Nat}
    {inner : List Char → Option (α × List Char)} {more rest : List Char}
    (innerAppend : ∀ {input value}, inner input = some (value, rest) →
      inner (input ++ more) = some (value, rest ++ more))
    {input : List Char} {value : α}
    (read : readSeparator separator index inner input = some (value, rest)) :
    readSeparator separator index inner (input ++ more) = some (value, rest ++ more) := by
  unfold readSeparator at read ⊢
  split_ifs at read ⊢
  · exact innerAppend read
  · split at read
    · split_ifs at read with isSeparator
      simp only [List.cons_append, isSeparator, if_true]
      exact innerAppend read
    · cases read

/-- A separator other than the first is there. -/
theorem readSeparator_head {separator : Char} {index : Nat} (later : 0 < index)
    {inner : List Char → Option (α × List Char)} {input : List Char} {value : α}
    {rest : List Char} (read : readSeparator separator index inner input = some (value, rest)) :
    input.head? = some separator := by
  unfold readSeparator at read
  rw [if_neg (by omega)] at read
  split at read
  · split_ifs at read with isSeparator
    simp [isSeparator]
  · cases read

/-- `read_ipv4_addr` reads the same with more text after the address, when that text does not
go on with a decimal digit. -/
theorem readIpv4Addr_append {input : List Char} {ip : Ipv4Addr} {rest : List Char}
    (read : readIpv4Addr input = some (ip, rest)) {more : List Char}
    (stops : ∀ c ∈ (rest ++ more).head?, toDigit 10 c = none) :
    readIpv4Addr (input ++ more) = some (ip, rest ++ more) := by
  obtain ⟨first, second, third, a, b, c, d⟩ := readIpv4Addr_eq_some read
  have beforeDot : ∀ {index input value rest}, 0 < index →
      readSeparator '.' index readOctet input = some (value, rest) →
      ∀ c ∈ (input ++ more).head?, toDigit 10 c = none := by
    intro index input value rest later read c member
    rw [List.head?_append, readSeparator_head later read] at member
    cases member
    exact toDigit_dot 10
  have octet : ∀ {index input value rest}, (∀ c ∈ (rest ++ more).head?, toDigit 10 c = none) →
      readSeparator '.' index readOctet input = some (value, rest) →
      readSeparator '.' index readOctet (input ++ more) = some (value, rest ++ more) := by
    intro index input value rest stops read
    refine readSeparator_append ?_ read
    intro _ _ innerRead
    exact readNumber_append innerRead stops
  simp only [readIpv4Addr, Option.bind_eq_bind, octet (beforeDot (by norm_num) b) a,
    octet (beforeDot (by norm_num) c) b, octet (beforeDot (by norm_num) d) c, octet stops d,
    Option.some_bind, Option.pure_def]

/-- `read_ipv4_addr` reads a printed IPv4 address, up to the first character that is no
decimal digit. -/
theorem readIpv4Addr_toText (ip : Ipv4Addr) {rest : List Char}
    (stops : ∀ c ∈ rest.head?, toDigit 10 c = none) :
    readIpv4Addr (ip.toText ++ rest) = some (ip, rest) := by
  have octet : ∀ (x : Unsigned 8) {rest : List Char}, (∀ c ∈ rest.head?, toDigit 10 c = none) →
      readOctet (x.toText ++ rest) = some (x, rest) := by
    intro x rest stops
    exact readNumber_decimalDigits x.lt (by simpa using octet_toText_length_le x) stops
  have dotStops : ∀ rest : List Char, ∀ c ∈ ('.' :: rest).head?, toDigit 10 c = none := by
    simp
  simp only [readIpv4Addr, Ipv4Addr.toText, List.append_assoc, List.cons_append,
    Option.bind_eq_bind, readSeparator, octet ip.a (dotStops (ip.b.toText ++ _)),
    octet ip.b (dotStops (ip.c.toText ++ _)), octet ip.c (dotStops (ip.d.toText ++ rest)),
    octet ip.d stops, Option.some_bind, if_true, Option.pure_def, Nat.reduceEqDiff, ↓reduceIte]

/-- `read_port` reads a colon and a printed number exactly when the number fits in `u16`. -/
theorem readPort_decimalDigits (n : Nat) :
    readPort (':' :: decimalDigits n) =
      if fits : n < 2 ^ 16 then some (⟨n, fits⟩, []) else none := by
  simp only [readPort]
  split_ifs with fits
  · have read := @readNumber_decimalDigits 16 none true n fits rfl [] (by simp)
    rwa [List.append_nil] at read
  · unfold readNumber
    rw [← List.append_nil (decimalDigits n), readDigits_decimalDigits_overflow (not_lt.mp fits)]

end AddrParser

/-- A text parses as an IPv4 address when the reader takes all of it. -/
theorem Ipv4Addr.readIpv4Addr_of_fromStr {text : String} {ip : Ipv4Addr}
    (parsed : Ipv4Addr.fromStr text = .ok ip) :
    AddrParser.readIpv4Addr text.toList = some (ip, []) := by
  unfold Ipv4Addr.fromStr at parsed
  split_ifs at parsed
  exact AddrParser.parseWith_eq_ok parsed

/-- Every printed IPv4 address parses back to itself. -/
theorem Ipv4Addr.fromStr_toText (ip : Ipv4Addr) : Ipv4Addr.fromStr ⟨ip.toText⟩ = .ok ip := by
  unfold Ipv4Addr.fromStr AddrParser.parseWith
  rw [if_neg (show ¬ 15 < String.length ⟨ip.toText⟩ from not_lt.mpr ip.toText_length_le),
    show (⟨ip.toText⟩ : String).toList = ip.toText ++ [] by simp [String.toList],
    AddrParser.readIpv4Addr_toText ip (by simp)]

/-- A text that parses as an IPv4 address, a colon and a printed number form a socket address
exactly when the number fits in `u16`, and then the address and the number are its parts. -/
theorem SocketAddr.fromStr_ipv4 {host : String} {ip : Ipv4Addr}
    (parsed : Ipv4Addr.fromStr host = .ok ip) (n : Nat) :
    SocketAddr.fromStr (host ++ ":" ++ ⟨decimalDigits n⟩) =
      if fits : n < 2 ^ 16 then .ok (.v4 ⟨ip, ⟨n, fits⟩⟩) else .error ⟨.socket⟩ := by
  have ipRead := Ipv4Addr.readIpv4Addr_of_fromStr parsed
  have text : (host ++ ":" ++ ⟨decimalDigits n⟩).toList =
      host.toList ++ ':' :: decimalDigits n := by
    simp [String.toList]
  have hostAndPort :=
    @AddrParser.readIpv4Addr_append _ _ _ ipRead (':' :: decimalDigits n) (by simp)
  unfold SocketAddr.fromStr AddrParser.parseWith
  rw [text]
  unfold AddrParser.readSocketAddr AddrParser.readSocketAddrV4
  simp only [Option.bind_eq_bind, hostAndPort, List.nil_append, Option.some_bind,
    AddrParser.readPort_decimalDigits]
  split_ifs with fits
  · rfl
  · rw [AddrParser.readSocketAddrV6_of_head (AddrParser.readIpv4Addr_head hostAndPort)]
    rfl

/-- `::1` reads as the loopback address. -/
theorem Ipv6Addr.fromStr_localhost : Ipv6Addr.fromStr "::1" = .ok Ipv6Addr.localhost := rfl

/-- The loopback address prints as `::1`. -/
theorem Ipv6Addr.localhost_toText : Ipv6Addr.localhost.toText = "::1".toList := by
  have printed : Ipv6Addr.localhost.toText = ':' :: ':' :: hexDigits 1 := rfl
  rw [printed, hexDigits, if_pos (by norm_num)]
  rfl

end RocketMQ
