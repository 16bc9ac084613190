/-
Unicode characters (version 14), as sets of code points: letters and numbers, characters with a visible form, characters
of identifiers (XID_Start and XID_Continue), and characters with a case; and their case mappings beyond ASCII, as runs
of code points that are all moved by the same distance. A set is a sorted list of closed intervals, which has a short
form as a text.
-/
import CodeSurvey.Text.Lines
import CodeSurvey.Text.Packed

/-! ## Sets of code points -/

namespace CodeSurvey.Text

/-- A set of code points: disjoint closed intervals in ascending order. -/
abbrev Ranges := Array (Nat × Nat)

namespace Ranges

def digit (c : Char) : Nat := if c.isDigit then c.toNat - '0'.toNat else c.toNat - 'A'.toNat + 10

def number (t : List Char) : Nat := t.foldl (fun n c => n * 16 + digit c) 0

/-- Adds an interval in its short form: its distance from the end of the interval before and, after a hyphen, from its
own start to its end. An interval of one code point is written as the first number alone. -/
def add (t : Ranges) (word : List Char) : Ranges :=
  let first := (t.back?.map (·.2)).getD 0 + number (word.takeWhile (· != '-'))
  t.push (first, first + number ((word.dropWhile (· != '-')).drop 1))

/-- Adds intervals that are separated by blanks. -/
def addAll (t : Ranges) (words : List Char) : Ranges := (splitOnChar ' ' words).foldl add t

/-- Bisection between the indices `lo` (inclusive) and `hi` (exclusive). `fuel` bounds the halvings. -/
def bisect (t : Ranges) (n : Nat) : (fuel lo hi : Nat) → Bool
  | 0, _, _ => false
  | fuel + 1, lo, hi =>
    if lo < hi then
      let mid := (lo + hi) / 2
      match t[mid]? with
      | none => false
      | some (a, b) =>
        if n < a then bisect t n fuel lo mid
        else if b < n then bisect t n fuel (mid + 1) hi
        else true
    else false

def contains (t : Ranges) (n : Nat) : Bool := bisect t n (t.size + 1) 0 t.size

end Ranges

/-! ## Classes -/

/-- The decimal digits from U+0080 on, in blocks that each run from zero to nine. -/
def decimalTable : Ranges := List.toArray <|
  [0x660, 0x6F0, 0x7C0, 0x966, 0x9E6, 0xA66, 0xAE6, 0xB66, 0xBE6, 0xC66, 0xCE6, 0xD66, 0xDE6, 0xE50, 0xED0,
    0xF20, 0x1040, 0x1090, 0x17E0, 0x1810, 0x1946, 0x19D0, 0x1A80, 0x1A90, 0x1B50, 0x1BB0, 0x1C40, 0x1C50, 0xA620,
    0xA8D0, 0xA900, 0xA9D0, 0xA9F0, 0xAA50, 0xABF0, 0xFF10, 0x104A0, 0x10D30, 0x11066, 0x110F0, 0x11136, 0x111D0,
    0x112F0, 0x11450, 0x114D0, 0x11650, 0x116C0, 0x11730, 0x118E0, 0x11950, 0x11C50, 0x11D50, 0x11DA0, 0x16A60, 0x16AC0,
    0x16B50, 0x1D7CE, 0x1D7D8, 0x1D7E2, 0x1D7EC, 0x1D7F6, 0x1E140, 0x1E2F0, 0x1E950,
    0x1FBF0].map fun first => (first, first + 9)

inductive CharClass where
  /-- Letters and numbers from U+0080 on. -/
  | alphanumeric
  /-- Printable characters from U+0080 on: all but the separators, the control and format characters, and the unassigned
  and private code points. -/
  | printable
  /-- Letters and numbers, decimal digits apart, that no identifier starts with. -/
  | numeral
  /-- Characters, decimal digits apart, that an identifier may go on with but not start with. -/
  | continuing
  /-- Characters with a case that are not passed over when the neighbours of a letter are looked at. -/
  | cased
  /-- Characters that are passed over when the neighbours of a letter are looked at. -/
  | passed

/-- The sets of all classes in turn. They are unpacked when one is first needed. -/
def classTables : Thunk (List Ranges) := Thunk.mk fun _ => (splitOnChar '=' (Packed.unpack 10355 "
  lW%S.ThVtxma6hdBI^aIoOUrFijh||*6AjL0/|XbWn9YT7ZCUM)^Pj7CM^t0Y$dYLCr+!xNI5XDu<2RJ(kl!3yQLos%6(%r=n/r)8hWKrO(]OD)X/]g66M
  n%F.1%?NDag9nhDxE(/tGod!VDG3Affv:mx=*(4ZB0@IL1~xT!HpSS$IoTl2?/4L9;EK6fk.~Bmzoj%rKd~C+h9rTJPF|Y<3,plB2wei,aefMQP<uIlk>I
  CFvUpb.$8rnX<3ljx08q$WVHMFy!c)&NN3Z.N)izSM|]TQBm^Wyy&H,Y1C@CQe6&R*.^O6p8$V9YQUR.9ZT2QxI8BkRVrGN@i,X(2btN@Kq7o|tap5Z6/Q
  64Yx1|lW1i+N5M^8Y.7kNS8Xr!OsR_D.T?,ic^pY>j.)%N0hD$98|Phn|yj.8x2LL8Xm~9jtI;rXs)zyA[:|0.Fvzm^,;~vth=lJxO3.2XKUD=0/rCj<|X
  $k3eiCIIgbg5hdF;[&fxg7ZxwE,Qm6$qGW[/WJB09,?]/ZTgzmJC9uu$HpbLe|Ec5L=BFh^Ag]8C[^,|Plk@30K3uF[yUBTXH?AaRBXQ|lD5,lS:spHGB)
  A<Ej<Iy!tlZ>1>i*QDt/BgXjgfe72WqVF4z>gbz|[QQS8i014mLrZXZ@Dv?iY|LroaLHEZ|:nUb).Zf,h%>yfx8^uVx|]T&ywH>c(]0/+ik_VkRb>BN:,2
  r2*Ickt1Z@3?cLgZ*pPmlEVsYv)O;!$yrA$zIB$dHZ>AMaM8e0NEJ7MkXIXFKjw]?q<d!AV$rJNLVLP?5y](7PJ!rCLUhj[2PPj4U(Py9/^W<L%Boeg~>s
  ??+[kbo4%=nL2WVX?CNDt0P4PO6cwm$?>M&pjMxlH]lAC.Q732vyplwUkL|d;1ABxa_*:RxWjFO,$1.O?X(@|M3|3|4^cV8UMuDP+.|LpQPH*honi/W5n%
  !4bCyuXGZ|Tj8^P4|Fxu55F^82CgCKK@;Skt*vHN6DU9b2y&<y=vICN[eC2&vv,a1vPI@>+a7M[h/$bdM;xqjlVHtZJ[DJ@PIw0v=B!I9sz9P%fQKGAW.4
  QI]|2=gA*6mYN<Q4lk^T3DbMoW*VKc?c.G6t/,jAS/U6UP.sz=_]N08[y]cn1j6;vlPH(u?(>TiCM6EY%m0.>]Tw/;DsTZHmclw.P8W4L7O:4%,GgfJY4W
  AbUY7/N<@&S5b.;RG7Q.[$V?|00u@6D!duLqetY=..78Ux1*.2[Z4EJ_GhM74(&vs9ZC.EyZ!*%H2*~]aE?G*Dxiq7JKG0*.]zTK^l5+fv*r;ZIAfZndLb
  P|tg:Kf8K2(k?Bt:nbwwS]cqhfMr5n3DeY^h_JFU@c[>.0pAd0_viH2:oIhYYfb@lO[W<VFte,sP7mxzop=2UTymrxL[&)$pObKwj+<LDDY(fGO:3?[R&,
  _adUk8xOo!t;I1obPH00lma).l&~Ka)&IR:jiuYL_JV,!/&3n9Lu;+|$fO,S;d/_c=&ckKIjj[Fb*qq~_Hk8wiSVT&xH8rHK]AGYz&2Y%v_qbb!plMb(78
  B6h[P^]T1mTs;d8CzG)o(euLqC+obX([k*~MzpUVlj(0BYLcZOPZa+AAX/6SF6(jT+z~AtulC(ua|$9Y?Y@m*5Pa!2_,kdEz[]8fpsrMqA^&g%k,&9vMke
  Yu[7%Ch(L?b&g6$oid:_cRk/O7(AX]1AXNPMcz$W&M@N?1J$TVC<gf&GXH~A>wEhh,&~t1/n0QfhX/$u;XIc|Rp|@RA*57V2oEK1FMF(gW/)t/2@XeOGG*
  jW!TD]%D6:MLYz76ywYCt;W0$xkILZ+|Lwa*Esn)B~wffh=N_)l?(IE)p;(th<juE~ih5DjX5f/<xOrqOWnsm7ueaZzDR,3>y7h&mMCwd%!RRTP200b]>.
  s,/t2H]13RdE0?NGuK.8vwb@ZP$z8whP4aaskDm!%b8:]LbOLinyKXeHNgVsd9R1!ZvtcqI>X@NlFDID)/U+I26d5r6<EkbK~PqZP?/5Zm^_3PpvAMtTx%
  x:J6R7|M3%L?^j5KrmbN<Tx[ckq=af&T%Ge!9/W~^96l5Px<lM4=/bE32y!xRWp3(p=@Sf6f?|Gg=*qor~DETpK]kzLE?H;a79eEd/w<|UVv?=*6_.jhV.
  )e*qc=rTPM+sW|8Ax@MN.5T]+YJP//*5GS!+l>jPx?9FzX>f|+=<YEoym[g7nSLD&1*+EMX.kPOfKr*qYA<]fq?POH:k/4vU$:bKM%qcDa7i4xX<7rg%@T
  :_m3*X_km$jIUP_VxR(_,Al_n@1(=wfec5aX%;/PlrzOMK6AnPO;>a&=e!2JKdQkO8?q+l^S8&FdU*.~3T1YmQQA4myINn!8XqVUsGy/AV@6/gQz@E^i+u
  kZ,,A4.,?[W%XsL+puGN6HP$9,W1tNihGI2=a8X/(cSckoN%Mwv:Y:IDxzlZpvvCjX3Zc!tMl>J!Sb6[YKl;*l>Y@$3cc*L(m+0SK^MQV8(N>GO%6nVq0V
  7O^,4*ps,+Kv|WsBLUBCr6xl~HS/?u%,mJ_2DBvW*M>0l/le.Wal<mR;?XsuK1eM+[9);aiz:n9T8cp_]iV(50bm=FB;fJ0.&!BI4zo|$>B*thhu$+Dciv
  zTrO6iyA7=~W4[Bb33,,^/M4%;G1OZv$B$M[ed&1l6I9z%2d_:APp*S.y$n@:/u>mbU5%Me$|v^Q1S,R>L$hur@CeNxcGxTfxjL@:^tP/j/.!PWl0R,u4J
  N4FyaWKa(7X<!:q=l=1K4*.48KpIs!C]gHT.qLCiLnlei)ulZZO]H.;<Q()k1+[i(n~)fYE1fkC:&U2=mmt@SH>p|<FU&E&tWH]ZA4zEQR^o776|Iib4Sv
  R<Z+/XRHud!NopE~uIr$9vsK;5TdjhYL4VEyJU>,ykV<c^qOH)!)s|qEyy(_$~7Kc%^Fq6JKghMXP,Hx?Bu(,deAU0q+7E|_@su_XjP,Wg[T_(fW:KjIcb
  [Kt?,bs&[Rb@ZKu<9hg$mmr*HnPb@~yo5up.U|ir.djtZ]xV@NEtd<lK4WrF^8uRjP2A2<SA0N.9h!dKx=WJE^A0>N;<(LZnxpaItZw8YnkJ?5%CXdJ!_Z
  |he%*jL@V,4kYO^Uig5u.y|5>+jn_=d|G!9Q[glzq9pa^wo]pOhY:RXvZ_PR0y);n+4~ap[za22/nYjmL/[4K7qJ[uQHJUjY,H^|9MuK+hX(.c>UWp4v6T
  sB[x+l|,:fK>Q/^S5+6DPm[dJ6&BH^FQc&d*d[dAh%7[93N.?z)nw9gZfO,H=i?(YE3*nV!LPO8sHOBWp24@F$&CZz^cta:rpUWx0@5qbl.TkBb+8i5v?%
  ,bP^gZ&aB>/(%.^gHQj[~xA(oY^(2^5TMf/!>H^+F=Ld0|u@Ii$vbl7YP_6/jC3bi9W_XRMoy1<rWQe2FWy,mwbWgV.Eq&f>WX$?)eiCHypu/xi)z:03?u
  Pv>chjC&J~y.9wo6afv9o3fOk9dKQYt!2FA,0l?((l.v.Z:NPn(5=un6yueWB6zpcX(C.2^bae_7u2x0Qt?V4)UJr8f_&=r<~oJ(,sgT!z~_M2/0Z~;>Oq
  0P_z.PT&6~gcqj+_hb8iUl|$W[Ge(HpLXs7S1_NP24paLnzI7,W!^y228X?;NGw|>^t13e.VyMswFun%kL2V@wW!MvyMiH4C|h&>jwBalntmeoJKC@yq_$
  ,NL!sx$ZvhpDe?zuAp^>^fm&u8n=3a+!OJj3AL]Le7KDL3_NRgZZhtLLSbc;PHEIc6DxhZ]vvaAp7KeLMkACklDo=ljdw?5ns|htF62<r65N<>uUh^QF@K
  )j.T.]ecu1(GpCBdoD*&O8XcMQ~7v]D9/$lRHGIqrOmTJWZ&~9EIA>*.kn3tZUfE/S>$BY<,%|=a5;(*m=;h,+>AvtujofUU!Sult:G?TJ>Zmzgr$au=1H
  97eMi[gySkM8Yr6ME3j>>2?F_rIE4*Q.<m.+s;Y9D^2W+oX;Yb*~jghz8<YjJTP~j^32sFAv^d>3ap=C,TiCg*!SPYuzRGQy<k=|sk^~qU$q6]!==P+gNQ
  ba,=Ftx;L3IlsF_8f0.o,+$k:U@xc]uUK4HV&23DSoTCQayaI4[>&VC>|G=1q$X@_/[~~DXK2Vh<j5Q1Qgf7")).map (Ranges.addAll #[])

def CharClass.contains (k : CharClass) (c : Char) : Bool := (classTables.get.getD k.ctorIdx #[]).contains c.toNat

/-! ## Case mappings -/

/-- The code points `first`, `first + step`, …, `last`, each mapped to itself plus `shift`. -/
structure CaseRun where
  first : Nat
  last : Nat
  step : Nat
  shift : Int

/-- The run that leads back. -/
def CaseRun.inverse (r : CaseRun) : CaseRun :=
  ⟨(r.first + r.shift).toNat, (r.last + r.shift).toNat, r.step, -r.shift⟩

def lowerRuns : Array CaseRun := #[
  ⟨0xC0, 0xD6, 1, 32⟩, ⟨0xD8, 0xDE, 1, 32⟩, ⟨0x100, 0x12E, 2, 1⟩, ⟨0x130, 0x130, 1, -199⟩, ⟨0x132, 0x136, 2, 1⟩,
  ⟨0x139, 0x147, 2, 1⟩, ⟨0x14A, 0x176, 2, 1⟩, ⟨0x178, 0x178, 1, -121⟩, ⟨0x179, 0x17D, 2, 1⟩, ⟨0x181, 0x181, 1, 210⟩,
  ⟨0x182, 0x184, 2, 1⟩, ⟨0x186, 0x186, 1, 206⟩, ⟨0x187, 0x187, 1, 1⟩, ⟨0x189, 0x18A, 1, 205⟩, ⟨0x18B, 0x18B, 1, 1⟩,
  ⟨0x18E, 0x18E, 1, 79⟩, ⟨0x18F, 0x18F, 1, 202⟩, ⟨0x190, 0x190, 1, 203⟩, ⟨0x191, 0x191, 1, 1⟩, ⟨0x193, 0x193, 1, 205⟩,
  ⟨0x194, 0x194, 1, 207⟩, ⟨0x196, 0x196, 1, 211⟩, ⟨0x197, 0x197, 1, 209⟩, ⟨0x198, 0x198, 1, 1⟩, ⟨0x19C, 0x19C, 1, 211⟩,
  ⟨0x19D, 0x19D, 1, 213⟩, ⟨0x19F, 0x19F, 1, 214⟩, ⟨0x1A0, 0x1A4, 2, 1⟩, ⟨0x1A6, 0x1A6, 1, 218⟩, ⟨0x1A7, 0x1A7, 1, 1⟩,
  ⟨0x1A9, 0x1A9, 1, 218⟩, ⟨0x1AC, 0x1AC, 1, 1⟩, ⟨0x1AE, 0x1AE, 1, 218⟩, ⟨0x1AF, 0x1AF, 1, 1⟩, ⟨0x1B1, 0x1B2, 1, 217⟩,
  ⟨0x1B3, 0x1B5, 2, 1⟩, ⟨0x1B7, 0x1B7, 1, 219⟩, ⟨0x1B8, 0x1B8, 1, 1⟩, ⟨0x1BC, 0x1BC, 1, 1⟩, ⟨0x1C4, 0x1C4, 1, 2⟩,
  ⟨0x1C5, 0x1C5, 1, 1⟩, ⟨0x1C7, 0x1C7, 1, 2⟩, ⟨0x1C8, 0x1C8, 1, 1⟩, ⟨0x1CA, 0x1CA, 1, 2⟩, ⟨0x1CB, 0x1DB, 2, 1⟩,
  ⟨0x1DE, 0x1EE, 2, 1⟩, ⟨0x1F1, 0x1F1, 1, 2⟩, ⟨0x1F2, 0x1F4, 2, 1⟩, ⟨0x1F6, 0x1F6, 1, -97⟩, ⟨0x1F7, 0x1F7, 1, -56⟩,
  ⟨0x1F8, 0x21E, 2, 1⟩, ⟨0x220, 0x220, 1, -130⟩, ⟨0x222, 0x232, 2, 1⟩, ⟨0x23A, 0x23A, 1, 10795⟩, ⟨0x23B, 0x23B, 1, 1⟩,
  ⟨0x23D, 0x23D, 1, -163⟩, ⟨0x23E, 0x23E, 1, 10792⟩, ⟨0x241, 0x241, 1, 1⟩, ⟨0x243, 0x243, 1, -195⟩,
  ⟨0x244, 0x244, 1, 69⟩, ⟨0x245, 0x245, 1, 71⟩, ⟨0x246, 0x24E, 2, 1⟩, ⟨0x370, 0x372, 2, 1⟩, ⟨0x376, 0x376, 1, 1⟩,
  ⟨0x37F, 0x37F, 1, 116⟩, ⟨0x386, 0x386, 1, 38⟩, ⟨0x388, 0x38A, 1, 37⟩, ⟨0x38C, 0x38C, 1, 64⟩, ⟨0x38E, 0x38F, 1, 63⟩,
  ⟨0x391, 0x3A1, 1, 32⟩, ⟨0x3A3, 0x3AB, 1, 32⟩, ⟨0x3CF, 0x3CF, 1, 8⟩, ⟨0x3D8, 0x3EE, 2, 1⟩, ⟨0x3F4, 0x3F4, 1, -60⟩,
  ⟨0x3F7, 0x3F7, 1, 1⟩, ⟨0x3F9, 0x3F9, 1, -7⟩, ⟨0x3FA, 0x3FA, 1, 1⟩, ⟨0x3FD, 0x3FF, 1, -130⟩, ⟨0x400, 0x40F, 1, 80⟩,
  ⟨0x410, 0x42F, 1, 32⟩, ⟨0x460, 0x480, 2, 1⟩, ⟨0x48A, 0x4BE, 2, 1⟩, ⟨0x4C0, 0x4C0, 1, 15⟩, ⟨0x4C1, 0x4CD, 2, 1⟩,
  ⟨0x4D0, 0x52E, 2, 1⟩, ⟨0x531, 0x556, 1, 48⟩, ⟨0x10A0, 0x10C5, 1, 7264⟩, ⟨0x10C7, 0x10C7, 1, 7264⟩,
  ⟨0x10CD, 0x10CD, 1, 7264⟩, ⟨0x13A0, 0x13EF, 1, 38864⟩, ⟨0x13F0, 0x13F5, 1, 8⟩, ⟨0x1C90, 0x1CBA, 1, -3008⟩,
  ⟨0x1CBD, 0x1CBF, 1, -3008⟩, ⟨0x1E00, 0x1E94, 2, 1⟩, ⟨0x1E9E, 0x1E9E, 1, -7615⟩, ⟨0x1EA0, 0x1EFE, 2, 1⟩,
  ⟨0x1F08, 0x1F0F, 1, -8⟩, ⟨0x1F18, 0x1F1D, 1, -8⟩, ⟨0x1F28, 0x1F2F, 1, -8⟩, ⟨0x1F38, 0x1F3F, 1, -8⟩,
  ⟨0x1F48, 0x1F4D, 1, -8⟩, ⟨0x1F59, 0x1F5F, 2, -8⟩, ⟨0x1F68, 0x1F6F, 1, -8⟩, ⟨0x1F88, 0x1F8F, 1, -8⟩,
  ⟨0x1F98, 0x1F9F, 1, -8⟩, ⟨0x1FA8, 0x1FAF, 1, -8⟩, ⟨0x1FB8, 0x1FB9, 1, -8⟩, ⟨0x1FBA, 0x1FBB, 1, -74⟩,
  ⟨0x1FBC, 0x1FBC, 1, -9⟩, ⟨0x1FC8, 0x1FCB, 1, -86⟩, ⟨0x1FCC, 0x1FCC, 1, -9⟩, ⟨0x1FD8, 0x1FD9, 1, -8⟩,
  ⟨0x1FDA, 0x1FDB, 1, -100⟩, ⟨0x1FE8, 0x1FE9, 1, -8⟩, ⟨0x1FEA, 0x1FEB, 1, -112⟩, ⟨0x1FEC, 0x1FEC, 1, -7⟩,
  ⟨0x1FF8, 0x1FF9, 1, -128⟩, ⟨0x1FFA, 0x1FFB, 1, -126⟩, ⟨0x1FFC, 0x1FFC, 1, -9⟩, ⟨0x2126, 0x2126, 1, -7517⟩,
  ⟨0x212A, 0x212A, 1, -8383⟩, ⟨0x212B, 0x212B, 1, -8262⟩, ⟨0x2132, 0x2132, 1, 28⟩, ⟨0x2160, 0x216F, 1, 16⟩,
  ⟨0x2183, 0x2183, 1, 1⟩, ⟨0x24B6, 0x24CF, 1, 26⟩, ⟨0x2C00, 0x2C2F, 1, 48⟩, ⟨0x2C60, 0x2C60, 1, 1⟩,
  ⟨0x2C62, 0x2C62, 1, -10743⟩, ⟨0x2C63, 0x2C63, 1, -3814⟩, ⟨0x2C64, 0x2C64, 1, -10727⟩, ⟨0x2C67, 0x2C6B, 2, 1⟩,
  ⟨0x2C6D, 0x2C6D, 1, -10780⟩, ⟨0x2C6E, 0x2C6E, 1, -10749⟩, ⟨0x2C6F, 0x2C6F, 1, -10783⟩, ⟨0x2C70, 0x2C70, 1, -10782⟩,
  ⟨0x2C72, 0x2C72, 1, 1⟩, ⟨0x2C75, 0x2C75, 1, 1⟩, ⟨0x2C7E, 0x2C7F, 1, -10815⟩, ⟨0x2C80, 0x2CE2, 2, 1⟩,
  ⟨0x2CEB, 0x2CED, 2, 1⟩, ⟨0x2CF2, 0x2CF2, 1, 1⟩, ⟨0xA640, 0xA66C, 2, 1⟩, ⟨0xA680, 0xA69A, 2, 1⟩,
  ⟨0xA722, 0xA72E, 2, 1⟩, ⟨0xA732, 0xA76E, 2, 1⟩, ⟨0xA779, 0xA77B, 2, 1⟩, ⟨0xA77D, 0xA77D, 1, -35332⟩,
  ⟨0xA77E, 0xA786, 2, 1⟩, ⟨0xA78B, 0xA78B, 1, 1⟩, ⟨0xA78D, 0xA78D, 1, -42280⟩, ⟨0xA790, 0xA792, 2, 1⟩,
  ⟨0xA796, 0xA7A8, 2, 1⟩, ⟨0xA7AA, 0xA7AA, 1, -42308⟩, ⟨0xA7AB, 0xA7AB, 1, -42319⟩, ⟨0xA7AC, 0xA7AC, 1, -42315⟩,
  ⟨0xA7AD, 0xA7AD, 1, -42305⟩, ⟨0xA7AE, 0xA7AE, 1, -42308⟩, ⟨0xA7B0, 0xA7B0, 1, -42258⟩, ⟨0xA7B1, 0xA7B1, 1, -42282⟩,
  ⟨0xA7B2, 0xA7B2, 1, -42261⟩, ⟨0xA7B3, 0xA7B3, 1, 928⟩, ⟨0xA7B4, 0xA7C2, 2, 1⟩, ⟨0xA7C4, 0xA7C4, 1, -48⟩,
  ⟨0xA7C5, 0xA7C5, 1, -42307⟩, ⟨0xA7C6, 0xA7C6, 1, -35384⟩, ⟨0xA7C7, 0xA7C9, 2, 1⟩, ⟨0xA7D0, 0xA7D0, 1, 1⟩,
  ⟨0xA7D6, 0xA7D8, 2, 1⟩, ⟨0xA7F5, 0xA7F5, 1, 1⟩, ⟨0xFF21, 0xFF3A, 1, 32⟩, ⟨0x10400, 0x10427, 1, 40⟩,
  ⟨0x104B0, 0x104D3, 1, 40⟩, ⟨0x10570, 0x1057A, 1, 39⟩, ⟨0x1057C, 0x1058A, 1, 39⟩, ⟨0x1058C, 0x10592, 1, 39⟩,
  ⟨0x10594, 0x10595, 1, 39⟩, ⟨0x10C80, 0x10CB2, 1, 64⟩, ⟨0x118A0, 0x118BF, 1, 32⟩, ⟨0x16E40, 0x16E5F, 1, 32⟩,
  ⟨0x1E900, 0x1E921, 1, 34⟩]

/-- First the characters whose upper case has another lower case, then the way back from lower case. -/
def upperRuns : Array CaseRun := List.toArray <| [
  ⟨0xB5, 0xB5, 1, 743⟩, ⟨0x131, 0x131, 1, -232⟩, ⟨0x17F, 0x17F, 1, -300⟩, ⟨0x1C5, 0x1C5, 1, -1⟩, ⟨0x1C8, 0x1C8, 1, -1⟩,
  ⟨0x1CB, 0x1CB, 1, -1⟩, ⟨0x1F2, 0x1F2, 1, -1⟩, ⟨0x345, 0x345, 1, 84⟩, ⟨0x3C2, 0x3C2, 1, -31⟩, ⟨0x3D0, 0x3D0, 1, -62⟩,
  ⟨0x3D1, 0x3D1, 1, -57⟩, ⟨0x3D5, 0x3D5, 1, -47⟩, ⟨0x3D6, 0x3D6, 1, -54⟩, ⟨0x3F0, 0x3F0, 1, -86⟩,
  ⟨0x3F1, 0x3F1, 1, -80⟩, ⟨0x3F5, 0x3F5, 1, -96⟩, ⟨0x1C80, 0x1C80, 1, -6254⟩, ⟨0x1C81, 0x1C81, 1, -6253⟩,
  ⟨0x1C82, 0x1C82, 1, -6244⟩, ⟨0x1C83, 0x1C84, 1, -6242⟩, ⟨0x1C85, 0x1C85, 1, -6243⟩, ⟨0x1C86, 0x1C86, 1, -6236⟩,
  ⟨0x1C87, 0x1C87, 1, -6181⟩, ⟨0x1C88, 0x1C88, 1, 35266⟩, ⟨0x1E9B, 0x1E9B, 1, -59⟩, ⟨0x1FBE, 0x1FBE, 1, -7205⟩] ++
  lowerRuns.toList.map .inverse

/-- In six blocks, Greek vowels with an iota below, which follows the vowel as a capital. -/
def iotaExpansions : List (Nat × List Nat) :=
  [(0x1F80, 0x1F08), (0x1F88, 0x1F08), (0x1F90, 0x1F28), (0x1F98, 0x1F28), (0x1FA0, 0x1F68),
    (0x1FA8, 0x1F68)].flatMap fun (first, vowel) =>
    (List.range 8).map fun i => (first + i, [vowel + i, 0x399])

def upperExpansions : Array (Nat × List Nat) := List.toArray <| iotaExpansions ++ [
  (0xDF, [0x53, 0x53]), (0x149, [0x2BC, 0x4E]), (0x1F0, [0x4A, 0x30C]), (0x390, [0x399, 0x308, 0x301]),
  (0x3B0, [0x3A5, 0x308, 0x301]), (0x587, [0x535, 0x552]), (0x1E96, [0x48, 0x331]), (0x1E97, [0x54, 0x308]),
  (0x1E98, [0x57, 0x30A]), (0x1E99, [0x59, 0x30A]), (0x1E9A, [0x41, 0x2BE]), (0x1F50, [0x3A5, 0x313]),
  (0x1F52, [0x3A5, 0x313, 0x300]), (0x1F54, [0x3A5, 0x313, 0x301]), (0x1F56, [0x3A5, 0x313, 0x342]),
  (0x1FB2, [0x1FBA, 0x399]), (0x1FB3, [0x391, 0x399]), (0x1FB4, [0x386, 0x399]), (0x1FB6, [0x391, 0x342]),
  (0x1FB7, [0x391, 0x342, 0x399]), (0x1FBC, [0x391, 0x399]), (0x1FC2, [0x1FCA, 0x399]), (0x1FC3, [0x397, 0x399]),
  (0x1FC4, [0x389, 0x399]), (0x1FC6, [0x397, 0x342]), (0x1FC7, [0x397, 0x342, 0x399]), (0x1FCC, [0x397, 0x399]),
  (0x1FD2, [0x399, 0x308, 0x300]), (0x1FD3, [0x399, 0x308, 0x301]), (0x1FD6, [0x399, 0x342]),
  (0x1FD7, [0x399, 0x308, 0x342]), (0x1FE2, [0x3A5, 0x308, 0x300]), (0x1FE3, [0x3A5, 0x308, 0x301]),
  (0x1FE4, [0x3A1, 0x313]), (0x1FE6, [0x3A5, 0x342]), (0x1FE7, [0x3A5, 0x308, 0x342]), (0x1FF2, [0x1FFA, 0x399]),
  (0x1FF3, [0x3A9, 0x399]), (0x1FF4, [0x38F, 0x399]), (0x1FF6, [0x3A9, 0x342]), (0x1FF7, [0x3A9, 0x342, 0x399]),
  (0x1FFC, [0x3A9, 0x399]), (0xFB00, [0x46, 0x46]), (0xFB01, [0x46, 0x49]), (0xFB02, [0x46, 0x4C]),
  (0xFB03, [0x46, 0x46, 0x49]), (0xFB04, [0x46, 0x46, 0x4C]), (0xFB05, [0x53, 0x54]), (0xFB06, [0x53, 0x54]),
  (0xFB13, [0x544, 0x546]), (0xFB14, [0x544, 0x535]), (0xFB15, [0x544, 0x53B]), (0xFB16, [0x54E, 0x546]),
  (0xFB17, [0x544, 0x53D])]

end CodeSurvey.Text
