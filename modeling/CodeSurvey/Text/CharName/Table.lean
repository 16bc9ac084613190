/-
The names of Unicode characters (version 14), in packed form.
-/
import CodeSurvey.Text.Packed

namespace CodeSurvey.Text.CharName

/-- The entries of the list of names, one behind the other. It is unpacked when it is first needed. -/
def entries : Thunk (List Char) := Thunk.mk fun _ => Packed.unpack 328577 "
  5$Yr=_%^xul<07]Hr,3JlLv3w8M=m?ejkIez,@TN>rrXtF)MaJO.dRpI8:LQcEYvYgeu4JT6uMgmPnwRCJugmGoDsFCIS~i^O%?|_X4?X)9cxmoee5llzt
  hQky,!806p50P8:me8x<<K/Kd2&9z,hp(X),bNOSaBf&BuMxEjtm;udXCR?$~:4[iJ$rn~nelT)|%ez<Mi[.$TH,CerigqkSDlT!rT.mkwJ^f+SZ][]b+x
  tFHb*DxRT=p)H^!e?x4r:Ybgc:P8Aakznzftogc~i)=@vaqzhYptm0%Zu=3[:1ZYNynM7ty0NeB|qxPzIO]*xogej_(glYX:%S,ZARNn|D7^JinDKS]Cm>
  KN?ZS$&cCOR:!.J&C*|Ovizy!;VKCoP7xEhlLr:kJJtJKx/7ud(uWD*^MFf*lBDKNdIq3+8H>6A:_N43iC:lOJ;Jk)*ZN$<OHZnd]Ws3~Wm9gvkh8RfEGo
  yX!47G]|HaclfHheYE9xTOAudO!fa>H^mlYNbzCJBtOA_m|PcA,uw[v9Wl,A_(XM$slOILKFl(bKur)@ZlqFXz1/L:UB4+,R,XssNJ/YPitWVLuHCo8ex$
  /[E1|F!Ne]A[*lVu<B~!lw/Vm;9JV>ppnH1SA!peMuI5c>nZ+C1Yg|XPtfURaP5|d_,k3AMOFyx59|eeTAsyw;;!d<J370&PxgTH5&@dZiIf3W)azj_3BX
  [JHflyp8/*xVoR3_4UiRk:S>mGbOX6/tQCF3ADPA1p9uwt+0/RO9DHxmod&$|rE%btNS,HO=O6N!ck=wPts4+2jQqQg($=7]r8>>m_Ur1Y9$1Xqc.89od+
  t.e5lz+ZN|;2$mS^P(6BKPBmE9Mps98o[fK]Dpt&_0ccVLq30:7ASzhufkN$S5^N2pTGf*:c5/;a$+;r)E!rUX^FTCSzIA*=@3p,WR%x^0d:*yg__(Ns.?
  6EJGx)lHxMs;%~n~@H_O)|_r@^$BX@vn.i%v5*xh?8;!/R8SHUQZ2mPhpgfA~&Nk054=*8/(k@NE%:wU[&l9]ftsf?Ez&N+Zj6%g9J9$8lpI>y8J<ye40A
  hl6H>W%..1X>b$X3OVp.1qz$LdeLv;j]xT^We^>MZMIg7NiQW8<nBHl1P!gaEv~y/DlYrmQBoXQf:Mzyp!z__lnTg*GR@jF1fE~j0cz2_8*~Ki:|r<g2HU
  ]O*99NhcU7rkkPl+@XWW67+xna;z7$[:r9edXfP8onGW73d=K>N~l~:J*tyaW.Ki9$w$0%+1A5)6mD0/blrR/vHmSN1;^dU3;;uAjh8v3~_+3X~;Z_:7G9
  AcF>KJYX^O[DHs|E[=XmIb)2yiC<mflci&ph*p]mx030|AIHo1*>q1xd.Z/0*Wpae/DnC2)Zd!^]UbuI_G1qE(eZ[~ysk=^~PPH.MG&uM0xGm!*y6kJj^t
  9f5YvF7W(p=b@EbjkI5^rJuVdwUo7,|h.C12cSfjzG>izJkmW&4XV31/8TA@]Rn^w%*QnYhzvp/B8<:DLZo~ETIi$YX$CENQmpP(7RijclQI3CK4U@^WLI
  x4>N@7*rI_dJk_u%i66c~n+i@6y/s_ZipO=oUyu3auT_sDVYg)!1(KR&y|dkm%?n~aJVf$!K=LH&x?IR^?XP%X6i9>N?_x&Zc_!01BCdWl9|T8.J/G=|/A
  m00b+H8tu^qzgPE1ib;zS3K^Zy:~n@!b%8WjqST|5c?*fQS7n=;+JYZWNt/L2g+D&4)|W(Bn)+SpZHElM~TEd9,O&_BkuyxBm;$w.1$W2>HZ99<SJf1VHJ
  /(J(SW/JPQyMI_g[5qqT~[aq@&3oj/L*N+0W=CLYi!9)8P@L8BC8~gbzMl+,Uw:.f$eFL,6juAz?Yz<~3;.g1T@6(B]5|<>09E,%9CHvsIouI8h5Fv>%o$
  V65nVBpJ?lB_a36|Y+W3j8O>$JeBHo]K[o^GgtuWXX=59;k1*Aucj0T^1d%NTr3;Fv*<O7]!)05!y^qPC<&xc?Y8MF2|U]DyoK0x)4I8&T3)WrA<F9+uUI
  pCmeqzsg5xddu%*j(P^?+u>b?iG@r;1qN_9?%n[~9ZYNyu3NBw]ytY9uRg88vwLeF?F]AE!HP;Vwx,6gGkz7b*|@MKVA>vb>;Xdar!wg8cj_%zH=|uq4Ys
  4TRn+hpd:L+?.SQJ1k+9t9D<9bhl~~1pNCqFTQ6BZ+V_!$PV1Fa(6(%J!<~TFa7LJh+l+J5<<m4e0Rb~_vk]vf]A)<gxAMquNL(AQ2nI$/Ac)z[]|CMzZy
  DPTN/C<K,~K^XLP;:F$pEimL,eoO.|7c_va%qA2yZ59cgMSMOi.oal)o%ej(%SEROR.u?LtVvJWh2+/Y^%!>>Jco9$zXPPG*D>$h+@n)_3l!)J$2Y6Aurq
  (@WE5pbY<mmQ~mU11*zm<uR4,f7pDNAjXwcTLFNolrp>FS)Mqz:%U/TEW4cS,*![a9&bqrCwVl1r0/d5lB*qLA!@;@l$nK3B)bNF7jzIB(MbL2m/nt|ef$
  Nk)*bmhxNPlqI@(^CGm)5YC3UK)<$<jHFM[!5>Ucc3lw0gI&j]mT%[PY=*rM1,wFrgV(darFg~hR(UB4z).6oHzAatn9r<%F,fdHY]&q+Z*9GnXs_Vp(h2
  CTk.LM.DhOeABcqe@yS<<dMPy4&0x0g%Iv&@K0:33S@:_z]RMBPp:yu)4^|,Uzo3VEOgCgE,|8.?@i0e)8W@h]4OH_W96szpY[=|s<6taGmHh4|@(Ea,m~
  mU0oLdBEhQZ_rP5HSG7^)ws:DV?xkz9i]Xz[H$bKc(mwd=chGp8)MS[d:Udo5cvd7[h*752Ez_e.F=Uh+^xG?p8;4hB>Sf=,u?FzXk9os;EK:G_C~ypzVp
  TyY)]98[KS0cc4:z)AWSawEet4(Vl=EJg?/X&ahv/KaYIbW&MUhja]?bvh$OORkF<_1Wx=G)I7^^&5SkuP8?IM@*A/$toXAKymn~WP&z^oo02tu[Vm08.]
  z9p<bXkUSgdA?ci=M^mOk9l=[eEtuNq<i3p1|:f$8zyJX7G3AC2r&q7rAxjyb=tB1:(JqG]_cdMO|H;|Zu=0EiAcB%;;:~x@vb1d[wL*OY?2h0wi=p!!mv
  glKHnmG7)p3IHh=$[C!Pygd4m[uiK0e@iXG(eEpJ(Ld:H;YXjZo%fvKTSB%c[]t3y12pG8dUaPv<ydv2hF3p?_]7bR>u?hBx46@a7@4sv3i|<;BcnY[[$(
  ww!eHo+cXao_8)S]P8D@5<]?BqsI.Nzo!u|v4u3RXlH:bWx?uYdQXY9lt=Mp65LHn3m!(d>RM=@Q;~C6$I/!Fr_BZz~w<2ORvfTRKgv6=^*W|yg.f=iZhH
  l2?b~.<Y^%,l&9k2*1l_d2,.Q3,;Mv&$=AG]y6KYxglrs>B5>onPQ|1|u]0&:Z!lt1J$~Pz^aOexnzraT&07[E!()6[=SMqEeAe~NW7.Zh>SxJ&F9qHje7
  >((iwC+B2aNzO%sG!Wtp5K=,]L+><t1jv2Am7zhtf4=It5hOp.uX4>7eZ~,FH7_<[DZ%k10<V/HABYyKik;^MK)exPT*gV=7;6u)5n%+tzW?cwA19cU/B2
  w@^4N:sre9?&vY$LuJ;tkCvvd1;rs2XYwW:o&0/H<~2Mj~i)b(P+5NXUVAJW7~~S0jSFm*AGbPE=hOV6iJT/(Pj2YJD@4~d9+8j+:65$QLo9y85qs,.n:?
  RAXUE*&>b%87JWg|@c&D[dev_I/Bw9M>VJqzeFdks^*r/~|FdT@uhvt_bS]$nq[P^,JE]?fmIT.E6M/o>DQ;Fs1MdaxR[|[Di&l6HC*4uXIWb|7yXvfh8^
  <i2Z,sy+qwFiTA+Aa,9K1Yv6h0H3<AZ01r0&(|IquKZIu]8?$6Qc[LhDOTgu3dIxp_R!.j|K=blSBNKve_S~9.$H5oL7g!rl3j3q<u(Te]sm^HG&/vo$d^
  =0qZ53%N:e@u:,x*n:7v2a0b]aHs7A$vW6NlUzrCl$Db1sNjyG@d,2D:qmH;e,j*Bs+I<$lTG:rQz8Q=,tXm11,Yq;8blQ+1$Ua65;&fu=Z+6Tu|KpmnKE
  Q.nzf)[Ls7d821=p5QsG:5t)u$N1IQq^rR,,R&/bHvQNWV0!(98<3^S*&h|YxxXqpBTt>XHmpc<qL3(v3Nu9CflK67?0OPtJ_RxWm&9J,!7!=B]p<TwDqR
  [Y!gOP(5L;wu|Zh*6@Hnx6pS7iGw^C_b62y,bz>=G8grO:SN8+98EQ;&@o7ePK:Gg2x+a>EeFh0.:o:.M>mgHxE)6I[rrezXEhkq_8(tnAQh$<Jn|M_QDI
  VmeAWKBnbC*W;X=OQAyEZjV,1/[g/6g!h6ekT_:[XPN3*U$A(p/xDBaOu*Vy?jl9SM9RXV|=v_4d:Olza0@J5YrI+_)9EJDNUGIF|)Nm(.X]S(aHUN?_F7
  pdGCB>a;YrQ.nJNC$hNnzNnEubSHeHFm@eydkaMP5nZzAc?6F>Ef2SX7BBZCh_+*Q]vVC5y/)En*g~&bA4R|%c8v%bDTtiPAzcspQ<Wj~dIqjP*d@t)v:S
  M[Xk:VDa*Q|3I&LlNTGYX0=dqs(GQWCikW,T/7p6?kG_KUi]%?m<>Xy~@9=rvO344eUR/vohc7feL7M6|4i|NOH<JSX0E+xXjG~nu7kUxrj70D2I^iayM~
  ]*YAYHR&(j?:w8sV+nZXNb+TzMqE>E),$YBeVC2j4jSxIw22G6b5~Y[?(;>*SKnzyg7U&).?GD.y(ZF,ZMe@fe.19vy8qlX>!gya,VK2w@Of4m<bVw!.~t
  L.>dDU.(2nx3;b*f5a2J;.j7$Ep?QWOxQ:/_x1By>M9T^@,AjK/x2U?,8M92FRO+o?K>6V@@e_rQ|MxXRTyA+De|I4pJ]Q3eXJ&KX,p6;zoqlb6aHCSKTz
  l_zeNXN1)*P))0bPe,X1B]/HOiZAJgLd$((Svi+?1fms+sZClm,UT7ViP[sGi0)?7p_*h=Mk+lk]T.N):ugkVFq6d6PxR(TA&^pR+/Lzvk^?3A1l%SNQ)W
  8a|!YS<jTj>OZ6)eM+tNEzNpL1>_1|.M8E)N$d&_OB9SVTXp02lYnVGxQ<V+sck>u1[|WwM^!AE.qv2UNgi|KHjcLkMekTzo&!8R:GXgr)S3X$O3~WLI[@
  =>!wPqT&A@Jwt?zMhJ^Gp+=a[^nptLmHgJ@<N5JHDCJ28A(s~w~K3Fr$8^$Uw]&Aa:+aNB~I@6yWiXVcTt(;~f]z)HE,>jJU$$4p.0u?[QZhs&dwQKAg;]
  H>TDtO5|i[ZcZUH5;19/IA2/=q_ZPL_AOl50Q1?]YF+xWZ34_;4.>=]&X$frdHa.f^f+Asd4ONNa+3.&n,99pZyB1NJ6u7!]QzN?*3ng@6TyME1qk!E]m3
  $MDb)Wf4f1Ej[Gw=k7DZ6*^H*Z/O@rwA]3^n4nZWc)U8[M%gzn:dI,NXnaQ?m:fQ||bzRk,!)zI[<HV@upqLt*~rgRl;M)Gq/=WV^r>i3u@qZE36v;F2j!
  CdrnE+[*QCfu*]lfp3EWbdQK^owXXc~.,5WD+eNTsUZc>?3g?>hKDJAJ=(@g:[y;eXds!MI.H4Df,YBSa~_smt&[edK+S_eiu+raj3Y5vWgD,@RVWPCmn;
  >hS8g5Os9ArNfqHB_)W|0Rns4vHP.>%ye6=8f5@T]eLotF?Ej3]FdK+q~g4%/q&&GgISl/2?RB)Nq7USk4M,7:pR5co?ob(%?l>!&rIJWjRA_!1gG?,A+z
  u6cSGSHy.E;9Gg+vQm13[Yt*3WzD6dD1TzVszgZ>Pyw_<RcvV7)c4ELQ/l6p)cFqdR;AhnQ2x2zJVo!d7=K2sw4RBAs|zxAU,^^)2toyL2,wwPZ]eDBal/
  5~qjdE~FVU<f)QNk*D|]:dAn?)Udx%)accH=+0K41Qs]?SI&348rzR=mtkFTP|QMOEBJY3o>dF]<(<HubFijfiS(fRvYKJ]7Xx~.%IO&5B?v9PsA4l+RXs
  4A=M;pcb<6@Q3Q.Oi&.=fUAd<HxRgDUW7oibMe6sR)kzDTWJZOt9K&+k9<1O>mId[|7HV>3Bd(W3Eua(J6&^;R0>K>9%(^l@h~g|Tt1Jr[4EpSnFhyiC)2
  YmQ[s62??egxkVcUkOdqt!QT<IvF.Cx8s4fN<6,C+nvd^^owe0bHFtRxVAiQ0r|!]giqw*+@y?z,./$avsNQ&qE76!GtgjYjxgY8U*uqI8by:MZ.RbOFK1
  Q<*[?^j+X!?dLIbuDsaT5u<BvjJT/>37CDfoZ&bfj8b;XCzUId5B*aWo:|N_I.TYS/]A<.li]Ec2VU1i[u|u54bkmTJnbwusZ2OBU/Tod$?c,wc1yWw/(X
  aitJxz)b>^BDBuA@Bbrc]tnoP]3ONyk/aizQ@3X(nYaGT7(]&jp%1aWP.SbL^DyaNZbeT&pko)^<CMN^E.7NH7JlMqT:2oAn4G;FYDc:t<yOe,Q[f.c&7X
  CM;PrI=?RfSmmi&Bsy*B3N!zZ%!jYal!Hl1T+J]hCXKk;&^Hi~b.Cfs$D7yKun(GYb[G4q^)&z,5M!8;a|S?p&L@OISCD?qex0W)E3UEW,5H^da_Vc%X]K
  /uuUK2x+XdbF7v=Ex5G~pP0xJ8sLjs2KlL^1lkc~Pw3tu0vA,x9hJ5&z$;f<V/.%CogQN%A6[F[fF_)AcufdO&SW~G$9/NbxHm<7<7diot;941X(H%=E^Y
  xufLqNKFtILf)=VUXr^R,P1(Yz=$4+?n%Jq>~h;;?II|WUHttzEGCLBVF_Qk;1W72zKBG+qQq_fykTq@%&SIoY5MA+.0OPZd<&<&Soq>0+?xJ)?aZO[LE^
  N8:,=bd&/a:Z7$fg>xdC(6ZN+dK^oZ<GxbfKr.X:?,swK7l+GLYy8QBb~3X)7~@v6e(?3favI<f$:llqKUS80MTt=b1n[ot%b<Oj[5<knvwW$i~kFdvSrF
  !]VAhofLt7h6Eq/^Pu$eDaO>1NR]bB+dBTEbl:ktW)Y&=0vvAup?fL[w!7u7ON]_6:pm4vOxwPf[c6O_%H+XYuG5M2y+fOO4w*<Pq1AN@9$[6!~6;[,k9(
  fgi7lH=&GFQ+A<&vJ&KfP^hxHx6F&D7Uo@e&t*%Dl]l<rZH(spV_pk&s*fPBrpW,&;XBZus7s3xpY)I@LnOy2pYy6hYXjQ76..7XZO.UV~sD67TDoM<OQt
  Jy5GC),Vf5A&(b^&_8~s0i6m1l9w)[wX1AYjp5C$B+^a+UfvH)eaBBWxI<*[nbX7dZgb*/IWV1iED<[AyhYmCw>+V+:Nieu0wGDk^VQr((IJKueEo/%+kQ
  B,FU~]uR+:[v8[||B*f|0r>WZwn<g5:~l39Buwgx=yWW[Cjyc(^1Xf&_C1@4_V(/C_f1XrO=2]11+8fX;:Ip[+?Oow@noPM:PWQ*p1oq$L<,e.=(=5TyXa
  j,VW>?2Cjkv@^f+2!Ff|m_LGBck]do^&4?uNATILJVm!mk%xqdfIYW:g1CQS|Lq9=sEc523=SX|$IR~HR^1+|>1d=h[,u;2Gi:,]A!fp0?O)Q[^L_IuVkS
  +x)_$UunD)Jbrlc9rbKx47qV@,s!p2KnvcRM7%IPHx&cID<L*.>YUz9uAICf>sC</WPC.p|aLoH6]ePH]Z2n(w]Xhzr|A3Oe%r:%>w;CS~)[<pkCZ90cRQ
  uC%~)Af/&n62*Yne9UTc,xm83Y]UTa,MXZ|A(ZEyu+>s>1dvZ?s(=NNHryaxq3rNe$[b[AIKIWwn?L/em,BNo1eLu0n8YXFrTtD|jLO>vmbB(]O:Wk02Gx
  i5,JjpWyq&hn[0yqUb11%q~~Q0gIPw(C46SA5dIdc%=r*o[Y3OVoAGalWO^1_0t~81|lNDE;)/YS0AoIb/Mm2d]z>4=8MJ)a)a$4tdxWdvv7g|Fy)H4.B,
  ,oeKC6FnW*]AyTs+cqys(rm%MAAPJAEpr&<)+Wu|4oqE2CIN0/62=a/Fu2urr;]E2X?_0Ze=DIUo,aaTQFYw0hmjOnD5iefqVRXTxsCk_>t8f:BswrM8+=
  7x+Q9O75A,V<2qj<$=I]OnEckUgmh+d^1HXBm~<MPb3_r9+0FeCGOjjiV:]A5LYg:ps:)jMAqY/w;a5M!SKB.~a/_u:K2eNHAm_jEgfkJe&3MxVscZn7Rj
  gOzhsoMYnDS;OepdO|GSasuCjVjrk/]j3bf4MrN=nT$dN4tz,qqVJ3*6G?SXWqN@K50cskNy]TnEB.ai4mi2:qhr5Jr3DM_9zY81/bGSE+F^(K1l$3w44z
  S@Q]leSbkWo,:~lBzyW/a@$iBn3oDe3rWw+Upk|y9:IJ$(aVBWb8>/w1_&.z[%!IJZU;Zwk(%3h9_]4P|Ik]Gxi3mExX!cPqi<tbD0=iQx(g%;>$+s<H2;
  M>178c$:Ths0s+e~q]Wktz^TVLw3|,$Y@$F^8?ci)uRnUy2,_qj^u<+r2^Se=>P.SLOEu1)N/tRZB_ceh=$Vjjyk,rU8sK^tdSddbj$]g4z+(*IA$S3jPa
  uRfRDGjo2r26JVU3RM!ZkjK=VwUU%Z6HlOlVj,)X:[nJZ*GMm.ZTF.BreH$/N$4+tD;1/LibAd^FTbQ^g[ujTVZJNQ>Z)5fTTmb97/uSO3:>SJQww0yT7C
  ~Nni]9<8_ZLe!z2=g%V3WR)SYwtsSJ[dYCBR~>Opu29qxf:|[1bnOi;t7BDMQ]n%%Ai>Y.9<P!>Glq|ez~fezyg!>T6p*FYw~3h8$1QaX&G+o/Ly*u~%5N
  6yN$2VWV8h3/snuKa&G7uld+$CnLXR=AYfszr<h*06j&Fsjy7Q*zR;v0lSdn,],yn4[4z>|!QI!E8ls~bC*X@RNqx_3rk6,yGg>kgW%j6c(OW$[m<L/p&0
  t4DL^.eIx8&?OBk?ppXrNJWlqVx>*eN6~aU)n$bz;L1+Rna<0qq.:E=KwzZ|Y/B0P9RR,q]V**gX4U)a_QYOQ<jal|W8^G[RF(rf(gR%v~Z]L<tJUhT)%D
  N|vDul8eCA8d+Ewx3TdQsDI.o,u0,HD(*Lz)K2IdMS*Lc8|dm;z/d7<<G,D)=FGU]NQw^UtVp=9;UBrHRLhRLYjKL,5AxSEBL;olbz=5nFpknys6!>8w7F
  PX%n!O@f6gdtF3X~fhmac$YHkGJL*/*z>nr@t7g,8rH.n3j]WNTZyk/?%l4NL=>VEAPbxjeQp_1/Obf/fgxoI.>fVa]cAN$|n!ma)UM=.18tdq9<j~+D7T
  _x:8hbxtJA;]N2T0Df81&~Pf8f*>9ogHxrpZIoWJU3micTeU=@q!OI%X]yqG8z?CVbi&bp*=v^42aI2A^9Rk7cO@%bB<6oDIC%wMx=_~]F1~48_&!I;9(U
  ,)2r/Yh<($)XnV?*1Z1[+8RJydP9p6!3/m1vAmIu911cP*;mooj^QcYuRo%^:iQ,(tQk|HAX$Nqs9y*ybW&i7]>2G1kpk[q<drrI%cIAY2?<YKSUyx$kcA
  l:jh3kO/EUqSK7n,>B8Yn,:HUD:=U5]v1j5Q/<V,P;vG=f1:G5!W8y[f)l3n/beJ88vD.nL+F!+@a>31om[ITgKScxvGiA![hNekB,sNV7@@J[VeWv;J/r
  5V=zp!R(ZHhsq,[),IR(q/lii6LCmc<mZexi3Yrn:jFn%l2PX<vA/|Tlqd|^X+Sef&!vB9HsP(E!h[7C9X9S2d%CaZrLoC?lJB6P%]JT:bX!KVAs2rx(JT
  CA)yXW6Z.b&!1N$izzM$EKHO&.2QEp0QU|/gfe2AV8<oJ,JGdrH0f.92^QA!$8:yx&|N2y7P>_kKm:hp:I@>V,2y0S?B%[kXlar,=w+:H%l10$9E?P<ad%
  LSi7jWH>CSzw0YD1I34~bi0,X)z^z=iNUJ.H%mRHVpp=1S]Tw||NU(IEi8:VWVMs~,_w4sKY!C]eTNZp|ca/Ql2>j|^Wf02/y|Bw,]ys%aZWRkD!wsRs+m
  K9W@,TX0=R$z0mGU1AZlpgI*Yv*@2.1JZa@fPoUo&p*e:/dxDH]z0s$yT4VtTQI!%bH3|t@6un~)4&v8F0)AvLS;!HW^O7r;LiHCMy3V+vR,B&;A&?dn~p
  9%:M=CQdyh3CH>!i;*Kx_a>FBT8aU^%(d$k3!hq||WL%leHTlzSY<|^mrI/eK2P?A=DF/81tW|RGwH==tphW1Fn3apolm>Mk,cd;G=??d.2^?OECe[!f,c
  g5|:Qj@K,Kx5WJue_sPDq56KzU_CSwWR%h4gpYHYF%R3,Xwb;z10.8Hv?,q:YG2o&k3,w6>JmJFB1O,THCg6&8:mHy(L.]O)GTQ68?c[djkJl;h^QFv.~+
  N7:tC<=eJE(R&>+zy*!u/g]I);1+pOUYLpLjknJBx7B]PbsT$w:=]@XYFcJ5f+Mi+j$n,<zY0fz&tL3NH=rM^)NsAy9MPHud,|vYi)h!<i~>*NVJ~gtCq4
  P~)6YUDKd34:KOqfu&m&d7[UIK]E$bUkOPsOE?O7%]%nF+[t]N$77s=q*>V7YF$YlGG7?@vLhglu<D%:M66,,wnh$)fmEE))YL+~d?M.0!q3F+~5QFftZc
  qVjkVjN2$K|=3zD4(g.s;1Gd=RNDBpyd34,OxrGouVHWOlZ*NtXSlbQ/0ijJa50Fp84X57ncl|L&hY%w/WO4P*mNlX%.Chs)MfjOpBj@$1MFYTyH5*fLk3
  /JLu$a<Nb3*6BfUlAJf.V4RsCDr!]_AZ5/b~Ae8t)vbzav.Av5Dm!|2ZD@nKbpgf*mZ|(GVXE:e7Y0|yQ[DO)^9LTGT3lPH?Gwx^lpWMbkKP1|5f.gxgw5
  kJb;~>L6DfTB+V$hefFu&Nx4yO?%:n+7:&B^XAO5$CA2WZpQj5gLd3XJ+oEh2fwNEy~da6mwSKqQbCJzrag7sT63Kt].i/!^01:m<3a5eHyZ.jX6ofm.pd
  0M~W]vT_mVM1S!@gLBeCT/,o((3n(nhHsb6jf~BZzIjlE=y/xg8$o0+TP3bmY6HCcSbNjh@kLfymX*f@pj,QtMqj7d7yjZ>Tep86lc67s6JW;we1>,7j7Q
  PU88=+=wsZG5X;/Cq.WcM9(/xVc;h.A|9hUA<Q^WL3Y&o@5Y:%&v0cM][@+M2zwPE.(K9P$E/M%nS!<2C3*h+TqEPu_XZ:z;2U(6i(CL.W3RQ9$!!<2hM~
  7l34,.cUVF$DJ_ozQ:Fhj66X|BF(bF3Y~Q,jP.m57&0]3PCmh|t/R^VXuX7rSbB4$D5z]JA@)b9pAVPU(v5||NJm8;q2kh:P.3<5!H7.Dx&kl~kx3JHG)T
  (DVfzSR8xU?5orQ+)4ta=%C:ipE[XCC8Mr0p)6C[DT>$f.K(l?Q9aeJxlA:nA+na2<j^H1kYvDD)63]91^Z.6Wo1?Beom09=.eoh8S++l2Fv^i(cGC)P~g
  >xqvb~ZJX4E3pl+9zepChAye4(!ZzhUP69]k?wHBJV6dxE?+ityo<3,Mes[a*943@u<PVw=MLI%fBdI$2_CR5eSZkpa&n7UV1_U@ED;e7J;**&7|YJ7fuM
  i2o|BL65%LEWhQIW]G@|AvKlXea*G^]%+Lt0CHZ@UIVf*JKaH&Cs?j$|llK*e$tV(L0<P~7jhy4u/@>wiL$&t&?V~af3gK.lv2|J9Y:gQAVskCUouuNB7:
  u1T?ua8uXf|*$ex,M4qz^N?>+lhT50=)%A7e>RWAqW[lb?JK5=6hB@B>y$Pf*%RNy5Gcl[;OUIsF=uoNURqam/:)2Slnv1t;xtsU^~7ge17T7fJR+gUxL9
  ^T/oP0DaJiBaI4IJj%fa~2eQw[4*zIouM*4bnzfFqc:Gu*(=[%,w10ic)|IBC=&rv7l,a|dm*j+SY=sl0WdCs*>)ThXxC.TN)[f6Z1@ego3GoZX,^AIj4u
  Kw$tyPT5[N40vo!17+[J$lGd$Sr;tS,3zt|987Ap]>P:)zpy]qHJN*?<R0t:=;rRq:Yu6!1RA$(J&6XsEOu^^0PEB,eAGCl?w9)O$a)Y5.Y%Fx^i[z?xUm
  DMw_r<$zVSFQ2/)~|<O]d:8Vx@E=L3C?<vD@B$D9]X_VBhad*=V08K[QHb%5.:?Q3/v:GL+ZB107i0!|Zr4*Ll13xD,lteW3>&?hhEH08wzkO<@$;/9f8o
  mf&1&lyj^L6V,>;J8&L9Zl3O*xF=3:Vqn97|.|NAA<HfI&9zC+78fED/4woN]<+ZtM27k[Ac(HEpR4TyqZf05c32V4B8xHx&f&h19HL/K/8pm@yN~n;V$k
  q]8WZro]4^L@aWi_9C96P:F:?$+8WqN:|IF0V<AweUf<7pf&t?_)Q|0HcZ|6eFzV78<UyfLf,5;=h~)asMiF:v,8Mq2)$7w$v9MOOv>Bp)+YR!9:$[Wlc;
  Aet[:^b!KW2(N.h=G?Agsx:v]$b=C7De+qYON3ckzDI~Xx;g1[kbFkSFZ;EbK|gSiyM~Y,@f<p3trU_Rta~yOK)l6T?w|oYT,P[33UUD6]FiA/G1JR9qs?
  &eKr(+I.AUO_7=t~fh!i8k%6WG)v+46*S/D~HhPJ%H.|nIi3Y%7hx8C3YMG+/u(Oa|hg8[ATg6GKdsaP$Tu!YrkX:Vy;ThoGG<<:uyIIn6Bg_piveHmv^v
  J|P/hst&g++E*HhBsp6gu=U3F**zBVfbZ>o~1,irzjk^E9AjO]]AIm5v./r2|uASobR|b$<,CueHs8(E+!rzm0Q^yR2%,P(qhs.Tq/VmD*FtrtPZYsDuJx
  97C$lz$8IPbDx1Ge).<?A]H/H*|L|Z^&CA[V1C!|Rzlm6dCSmA<^yxFZ+5r:Vl|1+Bk,7XOuGzN2EOdT[%6%<+,q<N.k&rF(vmv])0OzyDtZ]Pewe[AaC:
  [g(l;bxj.FG=CnoxdKhvP7r4;/D<LgE$K8v]!Xng6B^)/&h3giklK9Z|@49W^K9U;z73Dl!QSJVfVMhYT)Ht@)>N3iI~sz^xcwc1(|m:11n75[3mN)/%A/
  R>!L4eW;g8Jrd,%,&|>[UJ5JX=;bQCd4Gpa_f$zr8:&Bu02v~F^~O;pU|r<K&wlWi]ZSyaP~3J_<~[oXQ&!7tl5Ea$%ns1=Rg(?7esz*7vf~)Wgp<t[AxX
  wyx~4~YSUELMG~mT9.+X*:[KHKbaf]*dew@a3r%:k1:[9SJSjkDP0Zaa*2W[g9Lh.TY^ZA>?33]3A.?dY;ul$9T7*GLj3P5hg]@)/RfC<C>RA;4K:([T|u
  *37X|:=Dic7gq?7uzOS6@(tO)Y/c2axkm*=Np9Ryly?+27|kCS|JNtKiD[[EkAXu*n@siyvxx)fYpTnI3cC/C@o3$):Yn?e[XTuKuUHo]=gpA>*K8gs(Tv
  dqOH5V)VdM=<DBMF7ptpmsBrTT^EZb%s5XdcQHqr:nsHy%b9yMi$&rzSP!%jt%2~4JJJnK[sL:XxqXJ!<M[koGcSPjWekC&+GvvI5ItLz!yihdzD:9yT.P
  ^%KXr)j<mtHj%NYjQ$2%o+t+VHR$o:)ak;+pfI|Wo1FS=p(;4btEUVQ^_B9;K0S!kLqp*upCUe&eghtN@cl=kzBbiZ,WV_9t7JL(!!:dq960&Voetu?cwa
  cE$^l92jJmie7fTX5]cg$ue_8[8^$Qke4^w+$dABw_,!(n,%=*<dp4(EX[D3Ij1$zL;ZsKT(leg+MxX45Me@$d8CLw||Eu6H*3ZbdEbb+O7.%rR^$|PcQc
  ;ur9Eu/(sHaG^!Q6gHH*f?v>8$_mD?BcZADgu^%i&b_fUid|DU=atRW(U<OFw$xpeaA.?!t1X|Lzd0U(g|0VO|6D)t*eICS,Tj1+?yh7eU980DMN&,GnzB
  ;7X7iGP!V)0SDKIHZ]yj7S[FA]c8v50vTIs@FW$<GaR>G9C9]D9htvYdmi.YZW]ev2J<8vQlCAcC>bxD|dsEEvnom4s2pC!Y~x]M&BhiWK6EJ4D7A]1N(h
  zIqPTiFRR0Da:imPe,Q$hI^&TXu,vG&ch3C9k;I[+tS:81(9K8T6mCeY3^3P8IUa2u>,?BIv=u!VHDOI_k/ZnDfP.cz=zefLh>,L3]J[)~W%*SmW:AWrjT
  apb?I;ImaA:4/Otx0$RKcS5eSBI2EDtyFk5u:(nd%p,mjbS9&b_q2V~WuekAOGhS%prNTc5usym8|b(gmV_EB.tj&i8WAppT^66;d77fZI3>)lVD~EW%BM
  kh^8x3%dG=f$YQX4+LKG4jyDL3/nZANnEElhQLn(&dy1L!=THxvnNP1=(eL3+VT@*_)Bt&k&n.6;R>S0Ab:DxzYg6vRv9x?J5<aF@h+>4&,hn)@1uw8%+m
  kkG:QTMfnTOvWq/h]&ELL!@pU9KztMblGakq![&sr3g;0fq+d=ppV|DjIg_c~eTGa8*h!xD^%;,0BFx[(8k(0$j7LbD^zrGO@EonPe9BT+zo0xbxyED0O(
  TrNxR1p=B*Pwk<,U7nptm|&_?*hh$V09?I_OSukFMLal8q,OHam)mJ717IY;0HhgDl0X5.ps~D:a1%83A*FM]qqVC+&u,P(4!Oo9oB9[0:W=WIp4YzX^p%
  YD6ZIzCHH^%&UY7%WA;;*i&rL[>ev:v,G9aG)@+YuvFRB:iM@HRF]).boMi2.1QvE,*RK796|)a*Xwjrr&&!kT_4@9ND?JRymOJTdTsF,[[r2]1bITT/^s
  59a?U6<4fIP|+8mzr(.NA^Wfre$JZ|w3q>:BR3SRD8M6<jUZ.YlUIH)m5]fV;76F;uh*)/Yq)lVcM0@I>%lW]mVyQebR4_B+?ddI5GCx(3:qKqa6BF~^uc
  !mofQNtNl*16uTwk+]0SVKK)H1b5S/bIG+7p7$3h?+j<&ZLFL_W6T1<l<zn/0Jtz~<AeSJ5pgn(s_AU,jSF[zg_q_(n>LGo,m^Tz[rPBJ&EBW<*f.A;[+~
  4||^UC=PNI=da3AB3phCjwXfX]c.SFyq]+8kE@JrL%XmlPq/|:mhx!=OR9@v8:5|5OFLYQoQz!t4V]g4H^?&;^NUULqJw@D:%V,2oK]ojyHUQlbDer4I,n
  nrbJ7X$t(Gx/3r7,fDAn+bj%AkN=&2C2|?f]qY[tc[eObS4H;3@)z~V<,Hwi7Th6:+n2(XAA<99z^Vs%g8S[FPC,KGKhqSaX7qi?892|>89;t80@?fU>xF
  kZZJXPc<Ps3|=r;xpU>iBk?8i!s8/!3*zACHrlYOOixOR1>Mg|rQEPC7o(*?jh%X[C@i@Oc|?Tud[Q+L]=H,qsqqGL]Vx;Fj,Y5W|,,iqo&<fIiyz[4+b^
  ALQ&YZ0rsbb)gju.VLo;wWH5$|FTNJK+EHs6d0)?C|f7?pCis;82kbFCyR8B;5K&zx+/|:Otv)J,*hIN%D1Ov$O?lq.(@o*qjk%8qNrU1cCKL9ms;Fh%Qc
  NJ0/fBra*5LL=rylX8Gt14_&_vD<L$O77vfp/PsJFA|?)7QuGD|ONB3A;,b6Tgf)4qO/JZV)(io5a87_Yau;t!?47k[?H/ewD~u>x7I9,NH[l~VNxXX,|&
  /0oMLT%p_^.%a3rAmAvD7/UOK9UjrFCfEUqB7l@n[Vk4bR^9yF>*[XA@RKcdcY^R]4x+ehsm=CA2o<@TYrI4s]S%T5*;c(S@d=ohUZfQ=aPdzBHiZ3$p_O
  yWo=QkndL[S=QnS4<Z|^2!IMmxT09HjE+OU*g,OyZC0cv=<RS~zG@~Hd5@!Q&8&S84Ce[r[Zk]tlAp:?l4aHZMVm+VjcrMh7j|H6x9SQf;;]7MCt4%VIA[
  @$x9UF6TY<@V9K5wgc~Nb4oU]fx4Em()U$rs&(:9YE[wlsudHohR>dmR5FgN*J!7@)&9HaNBOgI^T9RhmBHP6<hp~~wd(Apn2<X$b],C*?<rjnpIqZ|D>C
  >[zy@:0w(18sU2zgi)?@!]SYYiGt<A[nE!M,,4WL5lVc7b6u&aTBK=:oup^WE9:?Yw86H[1,3]P_ud~8cQuC4nw!t;6X0(],,ZJ%Ij%Rw|Hjhd3&CNK%_7
  [1wTc$jupYanQd96o%mw5wO/DPNVv:DN;)k_I^fR$jpXCU9HD99Z6E!n(a5+IDjm3zT4N%y0_&JasSu!h3v4K$xt_GoTlTzP)/TDzb$!].wd9w;ojWAu|x
  !.%h(*vQ]m;sAb&rxo;1C&+;/AHr0$Q6S&5r.J,Loo(<t5MB&&RvO0wAEEoSb|ye4v?^YrGnSc2[|e5%o8CbPg?hK04LL16*HYUh2H>GcHCkD8tg;nstBV
  /E^Za,lNW%,,J0)H&:YA2:z;HLOAVG@VA<~Fl819z+,W9DyfAoNTa82zVgV?i@:)IiB5F;/U+1.42@3J$zKxqn7W=tu&rpI)L^uUE&D^!,<|PPw*LAjp.j
  tL!<A[<o_$.;;R9<hbi^I:_>:=|C119hS<kg_1Q9jD[nj!]VyiakB;[Ji,TNd7U9[dP!<PK,E]1<Pdmzq[+CJ9X;IT)iTS!0ZBfkON15N+z5(oMNBvPcaM
  IE>19Q5[bHFtP4$P=WQ?(Y;*wylu$<G[FFK=7$uVmAmMk+NKBV*4y)/*W.~O/J;q1l(41(,RR>Xs5O~yzpHeiPDLk6h[OQY+|0l*yCI,Qg/);GR%<aC,]N
  /9wWNavKVNw)c$q9k,C1zuf42mw=.<Nq&I2I:Zni]E%GtFOc[(Pe@&>Af<bB0r6fzDq&Va).ye|%[tO36c$ih*^/L8RFGSB4KN8XGO1!ArQ06O,O@=7)_/
  b6(yY1%z!MtWQ%Bwi/&t=PL.|s52!C1fQH$[F%VE4lalnmjY%Q85a+A<|mX)=yxS?eetd:E?a1~5Y4p=XM5^;vf;22?6f?q9;n*:3gF8IEqF57%qT[?H>x
  _nLV?f%Z5.!lQ?OjIKk<O8%sfCZ&p_$+jZzeC*TG:b$)5<:OsrtH^&0,VzN9,g?6po/v%%IJihPdVB^pw_af[uGE3czZwiqD^>%S)pi,;U%Fc!0%ygdnOT
  dpI+<Ac2uIVa^S0@0s=nD3D=%h[i2SdA)@l1iV8]QQH0*?J,BR&+(BOsJgQ?JP9+Bp[2oREq>0rVLi$<PW%y)+BZ=FDa1<W%GA[^^4[>PQK~,^jSj0Ra,L
  hp$BB|Km*nZ,BTVP7f;tmFZUoX:Vtz(PH6,6n897@ArF+uL;Xxh*TlG.u%J1Zu;%Xpw_RJ;jrEasX|2S.nXV;pLs7V~+%v=f(1c+$+J>,%89U?Mpzt$6?P
  PKBuYPsi)0fo4R/kF,2TdZzlf]Cy)TF99KXWY|)/m@Vx+=%tOo4,MYm)70GWUDXYrWeiN^$F!CcxlFE.0>VDVFu:U%?(&/2vj[Ezaeu99xMk?)s^g?]L/%
  N,DZ=Z@~Mv*i6U.0M)<+@OcDB)lPTnw>[=Y%iw7rj)3te_rgb=x.KGmvt?Jav]6PI9Ly1V(HYdhms=s/e:P4.;<$R:LBqg(<boS6iF(JTo3m]K@Jz:rXov
  %>>]:FCI54w2W4=z_lncCN5;4/=U~9[9K33daz5u^0oe($K1zt335)f~fSYIBU&z3lUB)$3EBSQrB_Rg&.qfYSn2!!OSM;v%XgC1SoL1;SrT1qUhdRwGTx
  A&&&JKOiz]@J>U)LI=<1&Ej89/Qh<SJS.n1)7@?Mwp1GJ[kue3VP;.ZLoG5C<a+gSh@b$x~:Yo/GCfnolT(/AHGk(8_XHPVWVIVyNnh+FSnl.HHltdK%Ex
  mg6g_]0q|[j;WIl>fC^d60@8Ipp%~opK*/<o?,u8r&5*tTt0W@;^E@NlOUsJc&5NvP?VS/b@TwY[33uGAur*U*CmffR.&0hj)uB~0%]ZQp6y9bHm&&+qH,
  ]>_vzTIH=E;*yq$retz,Qix9;aSa201Q><*W[wg?uZMRMCROK8/~^l]qeq14**as?fB*AHJ=8oKW,U;+|%$].D8LT>J]j7Ze|>T2oz;NoD2?&I%M3!W&_m
  %AEhFu~(q0pv9Yk!YHY|snVc*l>uJ6*47FCc<tF]7cgAtfx~)f,ln0]D^hN&W_(qQ5hX1uTB.vzzK|8d2jS8!nVQ75pt*_FPH<:~~of4A=wrNhGdUB<sqh
  pgX60G%K+X~w]w0;r*b@|hhmu7vRk49t*uJ&[]7/Xt;*Gc+0Umr)E$za0aV+$PW=!9.).Z3Qr8nWR%SUNG$v6_gd7ne@X=&;9GAl=El%??tDjra1j@Nn_w
  |k+7;7Fb,>6Cx,7ijWsW?~KMR~xI)z12Ja8[v5BHUyqgvm+SQ3Nc%7FlN|,n5K@,u=<[v)Piev2QzC?s7UvE[W_OweAH6ZvDiLk9s|h@*t*Umr)2MF^1!l
  7l.s_Fa1f5~YQIhaI)|/e^&R4XJVsK6E>D$X:sKJrUJtcPH1qLlD)Qjo*sn^wh&:BXWKc1)0D*khM@h=J[|WX$6nz?&yUe74C!:JPL=SSJBamrxu0J!;y4
  (,lgX*2C;An=(Y(kJdZTPp]=XG;RSX]RQy;m]Vi1*>>V&^q(_e)VoY.8)>qmBYl:WH2tdOoQdZEr5f4[*rL39dD8P9jm;zsWbkoBMR=5c6uIEMXo||@gS|
  aSEm.$9Hd?:CnGQW[SeG5zE|+TirsH7)%%M,DcXQ!A6ES!~bV0P1GbdLp>CgtG05uH@m3aD9%ez+I,mu624?;_,,S@~%zu/!z,$y|>iehuiYd]]Jsh?+hV
  zI_:p@>d*|QM5RWZko_*;LpIeg;:!%!t]SGIkaP~8&PHX%kf3nsRCYyH^|xP~;Xic0..o/L0%UCvTY&Bjt39f|Gp[CHV8%d3cxm(r)a+];m|a7]3x0D1B0
  ()/X[6=v0<!!Zg/GPy5HH$ZpKrjxRA&._1O10@!,^5oI2e7Li^HX@p/G*ECiFtqIGzHAQ:J_^_q[Y_tNO*R3XS+O0qq3;T(D)G@h9wH&.TYH6y[2<o/0/3
  09O2crpekf<7_t0+Q:*q*nXW25<nI0Kg[)&|>c&5c9I0)y6GN*7b_.D1a=jZKt.C^@:GC*0$/o5I.^A3Q4jZm_7qr7T(7muW(@[+:[dbK||@8ffh)62f:%
  |QW<oD%RH$!=wp&Edk5&Di]/*NvUd4^*_$*J<Pe:M4DQF&[]6LQ?qRJ=(<VSMut|ph7/Pp?r~QR.]w|jEV(XqEP1*QP+9|AQ>9D6XF~[~!i,*Frf^;5OYG
  pOB*?!_Y9y(x&[JkLAR6.eSOkXBU+km=Kt@5NY6X?eU(%LaN%1SRIgN>>@,x&uu4Nj+|uaf*Yh.^Zg5S&uTzt@x<7@&nZIu]z.EHl7TKd<j)Wq7jvPFxE%
  vwM2DXI@710MQmuh5dq8dD2da41CAs<,]Zy%tBcC^k8B4X,$q.P]Xf2.)[vQvd,rG/LF2T[@.?Hx,|;y9+QiVZ|.@sY;RIaz)Iu<w+LtvA52sUX46$aNt2
  6K]nH/gV&Z+KxT6_fmVs_2szd$@P[~p^?tRdA3)z2k$?p$Hv,5EBKx^&wi<_.%4IB8pz>:ZDwm8_JoSg*+6EyWk(yiA85@o0KKT=@h6.8NfSenIDbjUyzk
  &UB?>m]pjY&.6p?lEZK[bTcK2xf*P_JSRj8&,zTp0HV]uX%70_l;|P^bUKp!;U1W%*ZK(Af8GXi4Y+=t]6ADi!6YKzX6|vcBT=hM=y3n6JT(LwprwGR*OY
  w^DV.E1=a<CPHF6*u<!^kMWWE)fYDV*+JSE7p9bAdLKSoMe?9[/4qseVHG$>1o_>1ii^&s++@uQt+oH>cWDxNBF0>&28H8gLRpw.Zndi*w<vu%_(:f&mx<
  [];hcDP>k;de|fMDeXUUjq9peFb$soTNm1aXVWa)Hf5CH%EeYCi$@aPA_(JzuncC<RH)tNCvv%Mp(|ofY=oAVz|Li+t|P29~*HQ,lo8lj@>)k~$BXq36!N
  h!nCR/Ul+PgnrpjPO$T1(kppSqm(wg|FMbv<|Tk[R8tn3Rl))PHTevR.2aBbyBf0e^q3O[8d5Tn5GHB^f6Rm+bz<Jdo7<nUh_pf,pbsP~T|k4:@3|>|y~j
  PGB5__<Q0LOuWv4!SpnJfE4v/5PR*ZXsrlDa$,RZef@D*irHDLj*fSafBj2H9<o+*Uo$y]KsmG:MJE<V<x;3@S/)pRUCOlRX7Z^]x/(<_dH*xFZ@_g!||%
  c,9;n_igMO[.Sj>v:izrycMvpycooH.YiezK1CwOs:yyYn*|4fHVH(r@Jdi[N6Zb1zh^4~j<wQUN?K]LJ4IVQO>xvNvEMvCS/Y3OHb,vnirj2g7HjqlSZh
  ;)p|fP908]!k0$nQWW7|hi1At8g^d3pk|zmBcV@y]]*K_CHsjA*<TUg@cnGiypoYI5EHaE+d]ZP@PlzKNGi7rqEHH745Ax[:Jj_Nu3FzL%~h^NRci&8pAc
  _wmaUqS|$!]iq5FupX2k@q1:pl@05OI7?iW7H*lDYeH$lxKZ.2BQf(rmQe&@@8[j*FDeMy_8Q6nR)uku2bK$nDnHe1&MzHE)zveO8gJnV.rZvab.9~vxq&
  cLWh!bSv?)FpT*>4pU%]1Z?)U/(v~RefAxU82;g%4UHCQEMpHhnFasmQeFLn0Z7s^Cxt.0f/n]c</6Bi2yY^CUHS5_Qe!3T8&nt1nZ6jpF|MSh.W/<h6,=
  nA0PdqZ)Lc@*,Txi3J$0Z)T./(@<774EjoAv2.nydGu[$EJMR1g,?s/|9FhVVmZnJ2r>Qufa1Bh(adTNrd)(:K~s(7H~8@y9Dyp0Y;.F$)wC>EQ^0dO;@G
  $Yu0qcxi*o^wF_*OH;w8ydOh818mU&r&SC21;>Upf,ko*dUEro:486k95)c4mb/Kn>A@I*oHSJBokzIqEJHT1(jYqI*$SkKcgJld)mc%3h9ok*57=?wq~c
  SOzNQ=ue&>9?0Qz7k*8;B9rz|zP)R|y/vd8@sKTiO~3|(eHmS+q/?z&$2OLp7!|2Ow:06:5rCaH6)S4R6Mdfj8m%K=NOLb&O;6p~1>MZ!ePW_wK>My|^JA
  rwpBQrHL_4O4J,(rWK~:wIKln;wq,L%sWahZC>.>X*?7U=iH*?mvaOv=,JM7%/(W,rh5y>_Q5%v+kitik=6u,HHjTp&&)/<UlcLVOPo]L1*3<X%cVhT:Wp
  :[&i.(DEZ9rPNv,d6Ygo&tt7|a4&G<],ng:qNM2@G[dO=zFy>XFy5AZKy)EQWynd|e@t4sjHqC8]WGwd7m=(IOuu_hC^ld[1odXsIk[kc]2Gl7>vvZkhWj
  2aA.F&m7%&p1zeDvhYh!=3tV3KcSOU7OOGGk1+43G<y<C,922);3b@k1!.F:|28~BQcenf&<hgX5;KeG:Tz;r4Kh[)4r?9=|4$Mf&V<C9z__GaTGIRw)lI
  n0vT7BGTO>kD+_ywSVNQ~wF8[nO9WfTa5+U?YiX%V_=rrK1NZI0,eXXtn<D5uOY&u3K4AOB,YFH]$ensRv?J+WP5I*hR[ZxA.(;vsZe2,w]hl[3x24kh|t
  WKf3.U8yin4MFYGo1;gPlNlb%XCT%)1/?7bP&rOq3a]guCrQx>2O(Qwa_*4u1OLO.[oCWUX9+qr6|5/E@2ry;Qhf@wYan.*C8WLVJZOjW<EB5/yVJ=N@CZ
  Qq=UY<4QZ3Q;uu|U(0gjkp)C<2<;K2B&EU8AKj)zHVL5Duu1~>zsVDwTkyV?M+qK*RA8e__0d3!E/Bvy[?(,rtX.ySHyN*ujLA+V>,VMX|PAo,nG!xUUtt
  _4hP3=g>%GGupB71fx4=BnxRV~*ZocVr4ad&Q+x;i%oFfMo2r!g[p/RDA3/X$p]9p=URBzdY9w510Sb]@,+pe)5u<VE:Y(xnSHHRxzMs![L?4D@3:E,@XU
  N3AX|On(iIotzFCW^E=<w[G.!PV[nt2fqr2Ls3/P7(,g~PzS5Rr1W^5yb^?n$gECl,ZEpKXiZtKc(7R$s0eR)Mp1QXMoV^SI[CB^!_G@BSPBF7e;L6Cayp
  I)K0jY@X:L3Lm1l3|gh1)m9)c]iK,i_UP$$,@;xMIN=9ejp$Re!^4R^FhKs1ul7fJpxOW74<T;U97qzF~s&KGnG@/$e+vXD%3):kz*p7yp9(gU~nysYpRf
  |%_)~0BzxGS=UOD|Aw5)_F&iZ&TbETXykK]+.]F5OuOsH6vN>K|,yHX)Coyv&4Z!pVYv[zB)ui:/m2,:Ag=Bz*S8b(bph2Ljc&DFy0g>4I9/5cDO[b:*A$
  G+0e$eu!NsyaPONAg,y|5BtQI3IF9<jS;Ct7%FWNCYdNg;my?m8oOZO0aW9VKfum[F?JG.d48H/;SnFgLuR)M,GeI^.]2rfY*9;7jLTBHK/2:f[1wK%[C5
  gW)u2D!jsUin7Bnt]gIRI<d?d$.v)<U,l*Cq)D9ob)/41MV/o%!x%f]ns!Q+KK=j%!88t6*3fWMCLeL;lfokQ2z@ZhpzF$p8B+?v0|UU2DG917X>|]e5_6
  W$bNFB~.FSfEz<S9,2DF<AOP,=bVQKNjz1fBgP2=,6Pt8nP9b,fxP2HsR:w.FmiHXnM(n28FJ;l6D_zVfQ)NUS4uIq1_y7Qd<EX&KA4pFB^O.Ni.c:%@Dj
  rA9aS6@wJGeSpqI7]kR^sxWz2=AVpc^:ZhOauR2!qjLLN]TD[WT!M6,c+1x.(*@Dkm?^qvU@(m^IRbnDo=K%coE;)YK_]m3OU;0FwYr;d=GTOD)ReCx]j|
  <W.8MjfW1EXc@6M=(~CG?U.Q;jWtIlv!<B/>UU8zeygkG)?ih:MxhnnN$X1WXKOceDQJ/XRvV9zQ%qEE5u,)EwXqe$UAIL/1B25u$gc%TjQzVqsODlI,rS
  QuhgwteYujO/DC2GYS[?FCr$PzAd*Q1KK=.vKKqC*>XU.tQ|(^CHTTg9yG,==NDYNsnupyER|Av/|.gL&f82|7v6+coX7sD/1*t]Apb.no!0e=K5:R);.3
  1T:Wj0FE4j1<:aJU,OZs$h|I1&4hj@R_$zFNJlEGxJV;WA3X3>N5Q?_ru3O:x]F7Jclf/iE/Bhw!Nh4?L13eOmF+q5|ZFhawqgH3N1+KuT?[EUC13z^B@A
  rwl$g>w(jr/Ph3[3Wf;7mH^<6g~XX8Ejo%1Zex6tM|HgOyvR^HV(!+m!,x<>C4ImBMwm>^b3+qdgJ8CGr67hK+1?POD_]V(qlzlENu=&J=aNjAj.R8>K(F
  ~]u$FH3.lz|7nKHr<c4$=j]x4J%)&~wnZ$,~EPRpJ(I>@<vrsSjqH/i>HsZc@G+>vTZk?S_kY+b1t<!2IB:bSA/z<ZN:fGZH>cO1tNeAG@:4c7B)b.2t7u
  .@*6kFad2xz|AI~~sqy$wjNvAmx4t7w_Dm%,E3ZdhyX5MwdH=KoKq?Pt]9|]fE[hAVHdI,nz3X9/%|2)ogESUu=LruF3)1F4qqf[(>%R4pP/$%%SogfPjZ
  Eg9tXMLC)L4!Ae.0(*7vd4nsy0p$iv_R/LXPM:sWE+b?Kq|SIAV1pUn@$Z1kqVu$YvA~IwHI0V>8?Pd;Tu73nrBFMq$Pa8r,r[%66<gxp6cMHuYQqGa9of
  4_XOsPCrMxZnGyl$j%ls|dXsrRnFFwj<My3o@3b/gPh;0NU_j_F1~a)1B%M%:._UCDG4gOJ3DGI[c?,De5O7C3r<,^4.88PbHr1@yg9dq.JwK2eV)[PHs~
  %?q4r_]HoRaasFU9u+rkt@+2raHC4ec+F7+9cMT!<co!^=K2<iNonn<+*%|2t2w|eNcVtHXM%5[Vvu%L|a|p;m6IFJk0h7t^2pHoXQ7OA5f$YkyVxqz|Mh
  .H/MH@*/<UjrbQJ]ogKAR:Wl!xG8fsQ*r,PKHOCv^:StmaLLnvx+^G6P(+0UHB3ZMoX,@iYBoZ>NUX3NBv2=qyNfoP)Da^]Jo<VP/KQR@vU:QQlOpd~!Rg
  s@.KFo<9Lcdtn34QivU65W.7Kyyh]VqwC2vKU>[0.7Otdk3Qppp+O_6MX9SOPkUFLqSFg8pN$QJxw7Z=VRRKYlJ~*8kN3d?j@;u8&m?=<xEZmr0~_F@nO<
  9,BWP/HioMb?;WFxug+)wr%6JWRDJl/Ku,mxdhjoqhxucwbkO8F/x~j=LvRUh6p?p_@Z:WrF).,X7H93BR[J]Jfv>C<W%QH%n4C%QIw([]X5SJ<G]ra+/W
  D::b2x7S4@khUewAW8E<cx*!&7O5_NZZ1G4cMf*F|<z(Y^iMvP*@>BH4AeouHLlAm=)3W/:zkaprbQcQ7?NXJe<Nl+fqZj<B9[.Q!N]l((M4Fdc&;O33Kj
  u,1mWd5e&]siyj7.,t=@fwW)rNo)F/PYlkSbqWaWB3tgSXnJSK1UdIb^cBF0bU]PbBs,xF7yL=/RDt~l8;0s@1!O<Sv~ET>@P+QoLjSOBU,Rq!yb<WcZt%
  rSlx?2fYmGbAE!TS4*=CpT>ayyphFXtjOdT8OXULrh>K(TTR[qlr~f1/Yut5Q!d>eT;Ykv/Xn+m|ZsWy_g]eMqF(T_D]5kjq]nWWT,_1gPpdG9QlTmCn1M
  cj[eRIAHUbu=U[Cr=pKP8Pc3s2f[^>^D[mM2Y_<UEMJF,lJ_V/tBrpGgN^nlAV65,?J=+bgo+=l6V>;zQ[JW)[=F_j;=RYnZImsjrn^zKyb,7f0;8anJNX
  t^l&eFbv/Sw29v$[@pf(Jj&cIhjFE(pCIhjyq^.XRp)OW/?z)7s.zt0>]NGcTE~GvKN9ww!]28+f+Y6V?>[~&CWsjHojkfzRKx(4.N8,9p!E<8ad_ct1!D
  *b/wm+3$/I+fjj!L~stKkqZZa~.e@xE55@.YQEVZa246GyZb+,R@~)bOMi_5SOW2.g6eLe.t=RuktP|UnGZJF9jn<7Bl<r4Zq8H@apy!ksG)wlpk^6?m5d
  )F4/UJ>DMzu]5q5zASl_ZFd>0r%U~OR!6NYhA?U^Qj0!)o;&L^^@2%E.naEb5HFV!oElc>>[y^sF)Nvp:sl;e2=m]NT4Taz$>2RVF|1,9TH2V!zWA/.HN@
  RtRpX*jx!AQ6puX(l2[4cacG0L1]2tG4T|K!.*IyCHF]jU9P8=6wDCZ*a,v]T19W.Q_/l&0+=uetOYPl[1b5x5;mXA_ur1uCIl=_n8r7^Dn&3d9zt=ni[C
  gKb(?NXk[pdd/_tJ1z)2CQ*$LL/4fqhfmCB!xUpt&P6cR71pxgN%VmV|X<$wFRjmDDk/BD(un=3iP9)/BT6JRMRgPA|rq0ss8sWHm,imWtksp=LWRXFi_6
  74mS=)5|binlETXbO_,@Ap4kg8~EtenoHNH0v^9@2,jFly=@~eY%4=?:sNgc;3V?Y46p!b=:s9jq~xQd.obCy:BcNNNLZm!d.TD;MZyR>8=L9(O^piT.=)
  E>)jUpdOY94f07X3H/m%hxf~Q<]*OkQ4z|D+dlV@2,^!U+[R!|BD=?dgB;VS.?;5q?0mx?mGD3%]wle,Rtctsp[$3u_kj%aWSuO>g@|z*G0w)Z7n33|6.(
  MIM0,7AcG[%rLPseLmkz8~Y](IsU*G)5>q^1>?i^?O1qG*zGEvw:1H53[1?llTNa,%<qqj4i1%Hran+s!I4GoIz&WSWa^KMUUhMGQ*5&T01Q)Z*IcJoK0]
  q/^@lSd]CY9[5u~.^dT[xO<Vtv2,71Rk=;ppe2gTZ/V.c8U%*CDi_^!rX8EiSYt>x:_!/JX9.hzZv53wIg(Mujq,!~&iR0%qzDo(gb4l9q<AFvNRP[N7tD
  zY:YIUN)8$a0AP74wROwIAz7[|LZ$U@hbgsp&VK>^ZUZxpC$A[_JK0L4^J)Y+[AI:n$VOSmNo=,fCm4mGlt(k5%yC*fp.:(Z[,is5^>%AS$/=09:iBBS>y
  Ve8Ox~^1L,,9/K,Z|&NUku@_YWL~ZVk/Ep_NpmQ>TNR0~%(an*VD7,tyVx8NU~KXLcC$=^D(c_bC[BLomm+RfF6Ma[OK=pWC2oipfup,U^;sW7@[JoJaF<
  qb2nhY$Z4H+dzV+NWI|NpTy/zyEeQA_2^(4LfGF&_u>6hppwlr4*E&>V8Ydr0(4P2c(BV(ULjwazV5[@xxfUy^tAmhORT3w0g>abdIS!:sk2kvg,@Nd(LV
  6jE>_u4.bUlcNFG$S2B,HkwCVKa/a~/l4B|2&0g8AM8c8e~~DfMG3*7i4pJS;kp3i@>G_[yKx;Un=l3(ZKs4gy,<%IboaQZr_)JUEaw=%z;OK!!qu18PK5
  y7m(@Qa+br<Umg%5Ap/3G>^o6TKCJP2;.oXw+|L]Mg%mCF5Vq8@upPdt>h0?1p@@v%&,QT:9oo=qPf&3I!iFKJJg@J6LIL3^82K;jd&SxyIac!:s]/9p1)
  kOoV%Ci5Gp@CH.t1HUELRgh(Q5;l%aoaCz>3J%XdHS1ra9K6qu0!Fuh*.FM@Iir|=@w.=%jnUeh0uougA<J*MUZwJje!d)ZH90OGz5qZrWHe4!14!q3ieT
  <^zZTq3=i<%0*RC$$Vc4M|pjaSK=mr>wY[&c2hzz!]9Sxr~5IcC!=k=@aZjS:P5jpQZX/5QT@cwKJM+z,0$WaSWqHjznEc|Fxyn=TB|8Fj=m<Gh@.3UAaj
  .N7x3aUrKYyyA0)li)I1yWtxkDK)]Q17[Xv!e,XH]BBM07xAba~i~QUa<6!2/=^r&tte3yS<10Y<bdAJr0L2L9]*)+)5!q+|hS=6SD)[gDR6N86(?6pt)j
  q>|<iuNWeH<9[Y=f]wKJSdH*K?~dq_d@?ow~.WMn]J1%hB3eG.5K?hI)ub>Vh~:*N[Plzg$32BvR[7bq5;u4~RGy@Q?pe<H^CH*:6|<6.LHmO3+p&lwg<@
  &SEPiimG&<nFc<?_$?H&05EK3cc=8&j81FU.Ie(WeLLmVog&iRM28TW:8x*w[*n|5F/8s57(0JB7dqCA8d@)pTAX[46<JxcQV2v/!$7y[]3I<%eGc*PGej
  1*.Sm?oy:xZlBP?!?|5qG|,oZ4K(Pm;hzK+k(Y;M/gacb)!5=7^B$tA8Id?)Fx/h;<gl>SJaRUDmeABRt:c[nYVQ7,gPp(Z2v+44a8Z8o=y(*U_mHph:;x
  r=@$(+/_SKcuj4]?CY4sz/[a4d9?bN_M+1QYf!;RzQLKOtHcZ=gaIOX0K!A/*[!$^H<ZwQ4Df|%3!Rrh>WVuW$C8x=?*s(?(5,g%bCm2t|:vBihNE|M~~d
  *z4Fg_+]oeb*lwJeeL<.>~?%hVnEe=u0RvV1H8E4LX.5]^ENhz4j(O=uU8f+(5DGrq=z[|81EW|nOl<*]j($o@J6^?*Fcl]V??yq68OI5t&8I2q+n6vU9)
  (N8y1I,JDumjp~JwN,;wT4.z(ximTz2(:UY1=0?fc;O=JFCI.pLYJLq&1S,n8!*2@1usa,Pcwjs_yX?sx0|K2<!o:![WT~[UaBy@4r5rxdJ:U|v+V~^VV!
  =Z7[^cPN6BVcVu*+7Co6S]qbQpCs>te7$I2EB[]lo(;^;.FgRC4=Q48Va3z9[6Aa|wDdZ7~;@F18z9Z]MOxgMPIxaUJGpZ&am)m/:5o>auUUmo::_[D,Gj
  ,tJs4BTSbTg?TTAoUqX*m?$POJ]/neW55i$0*DKD5DyG=,RL$(J^f==uS4>@lPvG(~g<2f38+iQu:3CZDca1igdXPfSJ7C&xHmV[1WI3(;M_W,dcSG*>m4
  ,;h2WZ[gaY)Al,fZ<<gd@UG2rG+YZ9f(z<qE[d)DTJ|hc?U11ZlDCQ+J4WGbRTQ2(FCmh)>l[A6iA$~wCiJQ7Tt!u7wffF^lKZqBFiN~gI2mla3/PudW0S
  HYYA,d$QkCt88MKGq;Y[]pj+e&^QmTBbe]l^Tkpw!M8f.ZSiD3_kkX|ynP2R3g%]>OZVLz[nW^pQL7_JCaM%y,ei,;pA~!RRDXm6W!].<;M+7I>f=AK[Kg
  J[CSTlb3A@L@W,s],o@w0*Kd,S!s32$z@;rkf.Hk_rpZ5*(<ArbIPvyM_?gz15q]h4@4LT%7zb)b$Y5Hsg|x[(8DrkP5gt*C,6>DF8|WSjH.f.QK8H/f]b
  W1+u!I,?>FHV=%,:Tbc(l,PTGyll+MWE]?sg[MHdpU.E5^]9Xw;%ziT7r3sq!$mMu%x[t$aEiSgD*U*o>y|X=srY~W]v9%IHmU=czg;5HHBY9=sc|+6v$=
  PbDvquC9WT&r9eLA,r/;**LSmGXud?a:D:3HXZW=>:!/|9wXnx%y,mk@[wUv]&pn$?ck2LMHsH0(tWZPMyQFZHb8WOcJhOZ;b_>unhg^>GPaAMbF:9w4UF
  yzWpDcJ?<V5X~G@s8L[K)?MgW2^n+Z&R|QSD8o:j7aDr?@^t[/(dP%RJbWY(M.gYuNfbL!Ftl+EK&I)$|IiIkyw6+R>4jZe4fEf0VRfvE%/e5niKp]KNN2
  SqTm]2uO?2>jDJgobtd[1/?r!^o~,]0=:jR!V<:4q7W)c0R@dK9<]7FwM$9c%8I.~5blXm$U[x<5osALjx|rC~_kzcGXPm<nlX_~oJVx_)ho$R_zWCd=N,
  [yWq>YZ4U!17$2h=5ltPVv*flS.+2v&KsW!e6iSwEqZGwK!W,V?J*sl!c$*n|t@Q)+h~l(AbRNQ:33%0vg:U17MhO2cyQ/c>mDQGfua1(G*ZPa!vvmyV>j
  g;p,ujmY:_8a8*Zp<F!^vmD%^krEu4p(H6U%=83VpsO!&2vEkrS|,/K(sGFh+|^eQ|xIfYwxENQ3?t>ws&nN$_lPc?5kyb_Y>cjT$h1!*>yNc44yCv|77d
  o?&9pe0<1Mh6~iugO%VoYc!Rxs/aNwwdtE=f|uJ8HSw;5B8M*D*hYr0zbS.ih;G8XsJ@*56fun*NSNP7$Ina0SSZiJz)=5p_pvZaG)PLdy_h[_Lnpdgay;
  zZ>Z=hFIW,qLT.r9/p!iEwR)z$Aa1(sD)WA9fNbgq)LFgKEhe9SJ0(+FK,10iLAlJhs(^=f]fve~Ub]2&Z%33%N/>3vS^u0r9XBu1sUKpfsyAM,Na]fi|!
  tLgr(RmibXIJ6GB$~!yr[2A0^)b3K)[Cwv;IV^aXgt40lM|II6|B>VD4tfuMo&(MuaOPsnhmf@3?s%*1KRZXBQO7I9A]uNV9:9C4)ilJ:ekPPwgQ671UXR
  [n7JUw@&j)y4k/Y!7L_hsc(!D*Y+2vh(X_v(Rv,xH]]q,az1pXaA$^]+Z$]hO0VA~_^@<S[$$]0?Mi]Dq=kZ10o!%G[JeSZZOH=+6/1.l.42M.HL=L]^PC
  IFm(~p&v4d8*v(Apnkmh:i~cLv|9so/hjoV))3ppKxl|%o.F,JKDPZw9O$?Gl2RCb^BldbnVdvy8PV=*TojHkefZ$xC))Y]E]X76Ok@YKD8ih$Y3OK2$03
  <OoW&MMWd_EbM?VtA|:]82GHVm~E_.%Ul_xHzq+!A:x<DRBuU_$_[02ne!CU.IBIIeH3vQ5UEk>9c)@7vGaLqx10*F]:X6JYUGikQw*xuN~lQQ*t!(>VQx
  .99Cbg2lY=9uwT!48JozjyMQmLgx?oL/A]v_KdiAcMjdeAy~KyxXOVzb>~UDF+h52LjfTI0GNPv)*EH,kytE740aF=WHAdmVs]b,kYenlZ2AR:5u8Hr*=_
  qmt0d_pwOM0/dX1)ds]ARy$+I<Z.9u<<Jp0uRhFMaqxTQGoCZ&w!*+dTQ^O1NftG)i5;(OlrS|1:Um9/qX;Bj.Fc[k$?Ne&JY@1$*,]bBh//)7,+J+KMdR
  <o)^3xNlBT[6$GxWCXMr:sBniBk.|UHfAz*KTf<0629KyH$w8.~vxRPpPwmjAI<5ZL9^101~^ckHXp!>W4.IBiiO8WZSA6Dz7%33Q!B)l.pV5c,=BML9dK
  $kAv7wlwG%YC+NQvxU&5??<]j/|Xb7rvSLGnYJ4>@=G9x8T_RHn[S4g<=CuBM.DI1(NuRm&T.!4rsi;Ivg[wH0>Xqx+xe>e4$Xm,hRk%NN!Z_D:vb<E<yz
  [$[Kup(S2;w%XR:n^/[8pJXRe~m67roq(YU]~5&c^JFlo>1$3sjE9l(9=VoX/;~DqynJ~j7~MlZp;1FD?WT)1SAWG/cr)1oIyr7,:lmJ5b%xl?OI^<+dOo
  SFJvU8L0u%KZnH:4(<jA31v[2,kX[&/2gV|0=Kj,[Vaau3$sG(fz;$<R?r?)AoBe]9]s&0a*wB]C]0%9/v8.;[pRh!dpzWd]B=+^W[q9H@xQ~T?weU7zJb
  7$Bz.*C.~aa]r8pIuv,kV)^pmqRr:dbl>Z*CZ!2[rJxA;z|0?op4F+bq8uD>WY%^TE9uvCir:kv2Z=iYCH$Z=13CO*HyT%8>3eqkQanZ*!e_s?MQ2)a]_%
  m&n@WW>%h=Zn2lfv9d6]>%IYLe_1uYD:^t:OJ7h4TH3*MOzy+FYEz$6MV,*WsRQbwWD8GDqvW4fNuHaP0&&Tr6Oou~@j7gF_GKs1F$UsLYPV|QvP.E6a7z
  2.1%GQxP>(~n8hL7awP~J0y7_(02a^.h@2&tVYeZ,1tAliTY2/A/VaOmKd9*r4hYSAUi9xhtoTx~DAOhJWe|I:/eG]~;5j^>kzf)&vW2[;tD::g6i6Nz.d
  4t9fnj&l*y@x@:M,~szSQBP09.KG;*Ne3[tVgs*J%jvW5[cCNMY*MOoM;S)0LC,!1S/JMx~_Ym.ADo$doeEtmv[gzol$,<l;PK5jOOy:bb|HwTX&!gmnEa
  cS6zZ8V|y,)2T1E&L:@znb$b]cYTrBa?)9Ir@B%zn(WK7F&!(5,cRaUDCZn(WiKV)8g++)MQfq?O9Blk>UXj6wekD3A9xu.!f)!ET%Rd]K*80.lzu=~Onv
  KW>;_==Ow09wq<*+fIJzshcc_GET<?8>g/drdtI5O@zBL>STDR4[?]HYv]~>HWG,6D(s0|@ld/!3d|y;fF1*lBfqdMiSiTjV%iv.l,Wdq&Hjx(s5HE)MWN
  .^bq7G+g=6P@SE!fjKag^B?j[h+]t5bvW9i<mEVQ:Z@M>/xsoK/UrJ9wj.CPN+nT6vHH_$S[~SvOsMHb2hWU,Eskubu4:]7Fki6,+%2$VsO[hlp=&cmIvm
  hiprP%E*Er&GE)&([]$rk>Es7&mf|d~c9DbKtmK8^dhzsj+R1|&efSbwpmcsTnQD24GW(VBnRFjNMJlT/G[7cZC8]Uh3)5*he1S6cf>p@oZVk~%)^nuy;4
  Rxez@aW*W|M*YrXQ,cqkl/xUoLR+M?dY=g3@@$%gE_N6LswLQ!k./z@Y7Ce;i?BODFLy;R_<U,6jNM1*?_,//jI5VTVSelXGp7a!r1yZGBlC?sBcFG|fc3
  ;&F9jm_AZW6^PA!fhMteA=L&9+h1_6eA1&+DAHqQX]5Fp^S)jlBG8[l$.i%ggF!N?o6lV3y[D30*)AAqdOV:cYQ.0U3<$$4]RhhbqI|0x$1^?6fzTo9bT_
  FwuTSYsbeD.nr8_!zt69;@vE~>PWAw$7ijeRiXv.SB>M)A:q@XBYENhD@/@pxp.gl%H&d3aRI:iRikAiOsR^xU?7;8mLt7skS~dIdl@Y@T&ykL%@(o_o~v
  F4/MVP?|[qFyDds&^)3HdM5wRSy),2Jj>1/Y5bX>BuvF0n4tE(YIr6lzE/+eNkDvRsH(74QW8,S>3q>i98H1[B<0gJN<n0EWwDr9@D(W*?Sxx!G4Ged;?]
  vs5hVM3pB6H=5tBVsSCdJ?dm&UtdZrK@PdYFYL@3NAjs/ON>0^Eq?>f*br%c,ZDvD+57>gnsq^eA6xgUbP!73tn$!5vDjKdOXkGEi,3(m>G@6/q;B3+,^@
  Yiac<[5dxll.HGJu/^;xaDTY@SR^cz5ABV+wRJCscx[QtG?eCySrj33ip)]lC16v03%=<uoX~9gK&kD=l0;[R5)kB<kv>sskC|xEnNBGa;i*Qf9KTmrwI)
  $JX*ZD>dWI~%*&u$ru9R|ZrMX]4_jIiG(mal20vQ><69m/_0ak!Lyu>PE*<e;0c5g[!T7kx0@y$TOt^2Kzpp<euk/Owy@14j)EOKr7(7J9%?>tv@a3m[bu
  kKU8Pd<4nYCBaHGLF&/>MLoIz(rouDaz7NKp1%**ElbODH+*+f!zy~O~aw2=el)g(!jKNe6/,>*QNg=u8x!nLX_.HF,lOhzXf^xy~HDn,P^qbW?aT@8yeR
  )U^y=f6Ah;1C]Xh1[CnQ@Ky,t3qM478=rpZt*[p@5YL&*)STug=^1%9|v^5v3OQL>%+L<|wc.1JD9EOR%q]U>vaaD$l=v54r[=Px8]ZP$<@MKLc>.)r<PO
  O39FW%oW]I6G]|lJD81>H,5c<2WX:gPT0@qyP6/Y,adv.,]22uAc^|nc*%YqM~0()U8P$V*:^v(BtYavE.BVlf[tOQ1<:(dpw3VGT1/pQz|d0Ce4S4&>$Q
  VZoBun@~&U7CKvQ&;(?)=&=n&m/u4@NbSxS:aIa/dECpZ_Cj%Sbq)nn,[0JnO.3JhCsiJ6<AmR<IZY$f^A*R%&&csNDvf(qwM84*q0e^Y0X=_4ptq5HEcO
  ~]m9+PzQdH@laNE,=!,JIQBm<ohsn3o8:mEQR9b7!PxNTTGLb=XWvEu).y4=hpc>cu:ExzJ&(XJfz.WX(AO%l!Y0~pmJ@>MHcCiFsARR,uN&,S6F,9OOGB
  XHz%|(eSLjUY$uQJ2<EeT+Qr;xPn;H^Y>(Erz&wpjA1K4Gi$k)o*(A]sd|XWr%@0t)olZShx:5f?>~%zW?r:>(AWf06@BBnklLSdiCAB65SsoWL;E(vLlU
  :(*:6aO5DyhD_Xs@TyLdf6:g$?M;7t2_MmR,(M9BD%R(ehFP8dWg<)~yh0?.w]+bP,t%By(WgXrfmdKdf1ON(otb4/R@&_pBE~qjuBLM@a>0MXXzsSxEWx
  *j2>gbjLS_Dv9wZD<@K~_I8rqT[Wy<D9>tGa8e:9]ZHYn1xVnIT+&b+>b0y7eT7zklw~;Mf+:xckpfUT;ylbmll_]dC:PBP]lsJ].DZ[:J?dCO(qOWHlD:
  Ifu$vxc])hyNv1V9SPg4_0HgUl%>gcL*1X5QgnsaexjyGJD(7/GV:$9^%goCtqmNdC~JM*x18YFKVE?[i!;vw1C]eg6j$:+9!q<f9B]E+wA69:t*YTBkd_
  bJ+R;a+4R$YjU)B~[1stnhpv]_8E%[a]Lb,Vm$H~H@4BC82H4mL4NDN$I%j>X6$;x<.sKS1y|e(6D^pF7i@DuUt2C7+iq4Kh@1ei~B:&Ajl9db1%%)(2ZB
  P/6Xeb=yVFHPEIQ~vuVVSXoEDah91</f<(BR2QdVZ:(.T7zM6%Fb~Wzy^GjxKN)s_Oa_:YW~>udWSDG5<M6L6,Fl>39)fy9QjlR^JzC$u)+rStHC*@.NH_
  YI.E@BtzGY;kiYkg)w_v977Dde?iYsyA/4(QcmV<)q8DDfHj;b2h&Vt?C$Q8|kWq0A&60,1AqXcTL_(r9.GAj%:tP732tCmgd+Nbdq1c*0h*UX6S)>b+aD
  zVQ;fm0n:S[P.>jvdJf*1UG0fbEIJh:TXDtD1x7IRI2qDQ;qO2$GXaH1Cp@miKy3T|jZxCZJ2yGJx)Q$w&hC&fx1S~6*~/FkCMQ$g!jE8:GzfVfXaPY@Hl
  SR8(6e04?]4sLXE(y&Gfy9:J7~PJk1qEnP*qkQp9S^,YZk,KyLjgHNU?ScVs~Qtb8PGTkpLYNgww]viv?M]?r4tmbUh0.+o3X]UMb9sjIL0+>RjE%yHLB6
  MyUM7c3NT:,C@%KlY@?SMCq7AN*aJL(g99<IY~QCFDjR|&N//<u,MRmKBl//(Cf9L$s!7ZGlb@X0B@rp<|Zx)35c$QD~[V!Xhe/%M+tPx^4EDiIy2AR!p2
  >MFoXg5:T/$/:Kza4m^L7iF]xc?>$>C&v2YkQ3VNcgLp!YMB?.t31MJ+AN/rE)B0!MmQ:ZD5]vtFVEeP4XPT6xm,3f_oi.[e;?s?ki2+.ciZ%/>)QfD3H1
  o!^AmF:VEdK=3>c0:9Tt(Y>if^QhR3kK/liB[R)Ud2A;;XTT.EAw|Y_L3&N]kEbDm7T1BaO3(r$eK.xZGOK7jgf.)N];crm~k=*z3uWPk77sIbV%MR?^R2
  @C^]1:jtEqV>LI/F]_UXWi&PG+]|P=):vJr4H,Ua<N$g,e4uLQ<AQx0X2?58YH]bxwC:sx/7alb4!3IHlOQIV.mlg%MRxRN@[&XxsG@>7B!I,X+5j@zUp$
  ,;<hFWdg*f!!*Ur?HH//z[9HvOnu|CWB_LTezrW~TP=b+iMzAh$i&/TVUWyzJ4h[BkImQSdgmUNKiF8a?V;W<6B$O6UQA~k^(kW!RC*,xmd4)IcM7g:VG*
  A+0CMwX86i[1D9+e;+(*J994YC6evulDPmA,o2~Uw|FRdvMCgaNo:5*J|~HTOxec8q/g=/~(J@edS*+CWg]|Y4~fubelOYJrU)*Uz@LLvFn=JWW@_bh!^K
  h^hw)6?+;~eqVwd[7a%ebDu~o5O*Vj7C.<D>@_LE%E0U?4len9c=]2Vn]0(WAO(y8E5Y.1D//v^E5gmY<qY=B(lp9XYHtv.oh.kE+V*<.LN_ID=Or|.o0)
  j=yVswzju<c[DW@>xe<u5QrIm>n<7S$i/uwv[UIboKDzUiVU7J[ik<r5^Z+gTakl+0VE2gt,j%qLdjSSI7GW$=f2ihz(NRBG6P^U<Ny5<Gq!MIV3&6usP|
  8A(yUI=DW%y2VW|uks&]xb0Lo_q6o$/bB>]HbO:|tZQl!1Cx?r]8a;^/8dye5k~Ck%wC]J89&t:tn5[_]tgGqtN.6~2DOFv>b3ZjRtZ$V0&(;]I%$a8VOU
  d=XDA6*dR.E9mLGe]QC=q6<4yA5Rw%lQLq%Mkz7&%v%Bg~Bx)$=Ab$pXZicxq/<;Iu[R^V3gm6;T)h[L<>Vx&BzZusW.Euod/e5FkH9Pa3bZUd*qi&2gF~
  wmcZRo^0s_7&zHN]:(]2/LXYht%q)/r!EzT556I%MgApMPF7f:HZhBGAX:A*MM_APU;U^39(2,B!>$;A~z;S+(h]Sx$U^qRa.x1J?oeG]EII/:*)lsrgJP
  ,J]qo%><3@Qy!Fo]m+YfsHrdShJ@dc&c~+i[IgO0$Urx>OU+(Gvw$9cju<Hyg@mzF(em/6r?iew2M~PR4V_LcU6.I!d]toi$P_~.JJ!$9Q$k9U49Yeb=)N
  X?erhgvO|_6yzt>0jwu7wh::WPZf1MNVL+u],hiE9fp2LF=B;(?Jq!SBijBY$+O~~9BT&B$Dyl*j|af$c)(ZvZOmY)X<dFT=pivR=|37@L68y^W|V(lS|r
  k$oo>yJWa0k2uqLcn0|YZRcokdjbm*)30cH/7)*%N^z)pvIr7lFN42.fEf2:0j_91X()01x;=1r=@S_eo/U<=poX;z0tt!k<Nf8Be!V4iRPE|FT2kw(A5b
  W_7^Q&bq|xiaY+wlz1IY:fq[eog^!1b;9MjAG*:LD+=F,wx7Ff>;hA9.rXD_k0BX~GHzb~%%;W%>6[trPM(fPP(P@l/D(yW$cHY]60?P4(P*~Nx:ZYKvC7
  dA*/]Nlj4f6>9ec_OSs<U(rr]n[]^Bw^SpEHB<;doON0$ZMk3ws5k7V9NX.MV8@kVhB~rlXci+KnUL60/UVFI~B02tHUZ:v_j!s>r%z3,Hwv(<Wf5?!:|V
  $bNJrlVhvK&sZn0G5cG.s7oa1b;6q^ahF2_7aeTPcN1M&sdkHz:hP*u$=z(yaxQwKK=]:K.,v+Uq7|e.y6)IFYSg@y5RtUVJ]_;y$$u98l28<@mMnGYb)p
  dj0+d4I2)qZ)pded+=pxv~4bB6Ytx!2w&mqkY_1nR*h@(X+MyyZAMGSOGu;swuhSDXM+bH,155%At|~oSHp&7vSub0>^OGJCI]m@Je(Kk0K%i1v?Y@(P1.
  YxgZc3$GAabA<n._E;x|&WsXriI<8ktP_0/d3!p.=l,9~hGM<[c>.hvXet*!9*R@Y.Nqqyr3UFddrE2~U)n4.PkOZ$$kI]/)FfjCVq6Et7]p?o?3_4DI3W
  pzwBX&mie)b)co_;$B:/>5o3JhTDcZ%?p^@<D>FTZ8[@EgU3(Nl,j1<^6<rpYda,I9eg*z@cNIv1s;|*rWm3UAfZKd>(F0e>YtJUH,PGhT+O7n>!eiT44F
  7h<[d*/0?Ftw8;,WBfm>?XNX.4Y|/9(canp&jUZFmfKE9sU3gvtxp%5)7e3uMT//DuqNt^gCQ3cldCPo:Y^@2!S1k2lB9)B@(Qbv1+OKuE[]4WB1w2QV,2
  SP<kqol6P=)6n7IUiO]qA^&_yB[W/KCzi%v*&N]UuShoL&9G]qi,v1cirdIDEb399ZiW68ixn>uEN&=bHmXYRWV_au.[=7d=VUKe9[_fACj]6:JuwE/|RU
  p9Ox+4dQ8]Y]=4qwc8gvP@v&@JbTg^gDQ%HI>mH?I~zZp:cB3SW!:6xlXq[TH$rZ(<f+^JH*nR|O1Z=;qLrylO+&h?wKDH@7F%~16UvyKGG@diXE;gUF*%
  <p;!,ES*H&mxm^0:.q%^eI<>!pYsg1S9BvVIz_O.Vf+z3JjWxoaC@EE)V@ZZ_eXt^TeY;G/l613t8;YV,FY/,T>Mywtn6Qz>OK$(!N0pl2yh08z(Ttk([*
  KsdtLu4BY,A2(oD,/>O$:Fu><z.<ONFxmvlVbR_$Uuy5<Ycqld3R/0:Zh7*j)p9v_WNsj~D9@!xM[w@[VjXWH8xTl7eQ]hZ01h@Op,AK47sPATe3yIzf]7
  j/WS9aMet^;dYpJcT@i_;RQ7>?/p_&s$Ot?g2^U~B39Mb.MbcplU*Qp|9Dsb53x_|EnP8TT>LnV%7fF[Sn1Te;F!!&blZ8=ACy1.rMv[dYLn]6(m/U+Pzc
  *[UhB.kebRlmn1wj/&md[DgGObzEWges=Y7L&o&G8r*PV5uow6SJQu~Ba(zOtR.|Zx>ZrNktg5Y(mC4WUCQiAaPd7dkEEjTOy4~kHGLm&Ptw2,=E]<=qSJ
  DoN(Qxa/V|<(B;8F&ttYwPn+Zq~aUg=4[ise|fZfMbj+jE._W_W:!n@jQr+|.3S*vUx1tSZ.6vz85hJML|9D%*IZ@T!obV]1|&.$SM[b3$)Q9vC6)OqkX=
  3z2@6q6a2*MWL^n=?1r5cli|8ZmpMy~vG1bQO1E6TTJPgDP;z+p?acTQh:edG*Ay;HD+_gyrXiv)pf.55Q5Q~kPb;$*=;9K]PxR1?Z%4%ubdhlW^!c%l/X
  J]IAw$Wr8|@aI??MeiK?eLUbDIqDd*nV)<2@(0LMfKMi2K9EpTvb4x)u!LNo2hk=yx:v;hNu0<xwVQqP,.E>t&K0izzGC?MaywgY?aP/1gAa,M2pb.(X.M
  qAGGyFa*B.0=lkG^cK?8pgh@WWrj4VKR!M.M<9Sp^Bq4!KX1Fauvh^]5PT?]aVFp>,^Z>bDHKhz)$*lW3$Y>kBGm1NF0b=2?wFcj4yc)?(OB,,1N,j5zt7
  b/M4H2)PT6(R;f7Jhrr^&EJAIiLY4DJ]NBc=4&6^63l%eo+qU|m:<aFqjbK19,yB.s6wk!Aawa;?5~.Ag+Z5X0X%H0a2/?Kde)x.&]j_Z4a*<PE6/w$Q2O
  YIOA*tdpr/;eF*456az_>Q4Hw$ea),OaRqAKF8IcjgqPU<deT?wF)J.Exm:jyTmrp+;lhBcc7_sV]:E7,pa0x/@Y7X[<+X?;|SJHog?zUi23h(dZxH?gEl
  .H6PyW~;IukO;rNu9.b3PS,&v$3je8h)w*])&mGvP,3Lkuu,LykP,y;4)ya/&Cl|VPzg8/R8Yg&_^]Ds/5ek)dM9c6ZIfe0LV?4_AtB[bO5]V.G!ffyWlT
  AG$I%E(wQ%fPFJC^O$?K,$4GZFy]GFQG2zR<2!BeKV*=L:i@MoQTz)?+N3bJ~@0u?,[11HCSvr<u]yow=a,Hv_.G8,?~,cyjZU^(Rg2kY00N]=yl?;=>Ov
  UmxbJ:cHo=W):Tcxt8b$qG~3@oq97Msqu|sZYzB1Ltv_&q~4041T~i@KRwq_7l2NnakVhfm4vp=~O+r@)ar+xNo1XuMoHA6==Q+IvVu<RdA~%G2<Iz=+UE
  G+HcW,E;6!+c67?5n>3AX!fD|Ck4K1MTmDe)cyV^=h[mQXPM625u>)sI6^mT_fr!bT&KqR.?9X8>|uevjc]iQr;?%a5^Pf0<ERk~C>1Ud(.K,>dzOnP)cw
  [TBNE4m]!qAYyIJbAsvi_/|X4_C+2CQooibvcfmTg~/Hs]J~<J09;;Mpn$M@=gA.dR&1Tn!=^*MI>TS>Id~oMWe9Tih(+&c%YK0)3=Q$v5x4yik*X*D*s?
  W=uve8U4UQXBJ!_2hgR1_Nijn0E&.jyGKc9?jf*9yre3eOm!+Vm@w1HFf:syi4R!D/?iS&3>Lv<MYCJcQffX&g8_soS&j34.WD]!Z8s^M]Ia$>*]6r|0*@
  Pa6cT)?ISzcT*![+B3jWxa+Wb/xJ(@lQq&gwz4EK+%/p~4ZVo<_2Omvo@Yf1kjl*l=woqKRXG60kem!1)|&IwQ_F8b|WMt4CcI:uAYitIGznkI[WUET4Fo
  D$z*(UfUlvvo@r>6jEyeE[EyWK[[](MC&^G8kKm_U8Xf%88dFBJQMkOKr15/[C5w_[5F<Nz=1dBho%%VgEv6mF<RB6^bVni2qO/N$inoF(+~u78JFVTaen
  Mq2CStG+0sE9E<cON!n6.0*C^(8OS.H@<9t;)+0$qx/z!A<x.5>X7<m!JQ16vX&N|npMJ4|FACX&qI?N@Xr,OME94NeZ~K3=73|Bu&QnIscbAmfz.p,q50
  1,ZIJr0LM|ZE&jdcIyx3^gF;tRnOVfpPS?!@,4AEa,y$>~zi;|F2lbCvI[]jxEm+G%KFuHN9,|@J@cnGD$,vNzk*so9r|zp8Mn;e7B:./?f8Mr5dOlVZ&~
  wn<X9mL=lRvgbrLgL:Seveu1RVF+Y(||Y5H*i:?/VNQ_SHl?l4Y[4Va=csrYSlx[u[P*vt5KCIkt!G$Esjos+De=f!*T,99:/VTgMF2ZiUfw_4cv[<BF<N
  $cCMX:(|(;o%SLRk$0DzZ,_VR|;+tnI|!$Nf?^Q],Q2F).lYRAs)N!l:B5V4AX@MS|[NSL?)3.4t>=X~y:P5|d;7<@mKK_Z9=;~tpT@5_gDG9nqRrsNzB|
  DUZj9gfqrNrgj$;~$2]ajwqrx3k5N^D!6!rGHc37|I+>Pr4|w>gv<Vfy8Cy3di~MFw9)cm+$FvNVH_oG/^G~*+MbwUmJx8+;_AB[tqsL%FXNK|$6H6BG/n
  ZmNJ|MT7=*($oEHa>uhuv)Ak|IZ/<=5zHi@J&Q19iadOS8_M:FKBc[oULjsl|i!wp$yr2ZXsVCMujk@[8L5gzdhf7*;/Qq!uH6EP)3[m:RArcHTb6soE=i
  oHrg0WD^t*it~fO5FMn4ur)~7&9A&<!90h.u8pa)*Zn)ErLpl;npe~>2FA0u3hB@CY7,/K[WZ(b1z@R<|wlGZ3DQ]Yiwb(8U.TIIPPwXZl]Z^pJRRWe)(!
  kw[Ixy?.?1aHNmYV>Vn_y>P3><fXZgYT9L~~Kr(KD6NM>xe/N*Uomj~Lbq(tA6*y.9[dP?~(ojW0YpV=t&;Bsk.~jn51|rylV0prW]4,x7:%=Yx1h~4jS]
  lM+2t5lZ3^D[56Wp!Kj=0DJ?I$3zV)fm=gd%mD0_H?UGNFXvO59LRFrbx19P<QT4NJs2U9LL3G9Ee^^H=PkZ1)64xa7K=3mTSA8x+X>AqeyMe@F|:ETxq,
  8&g:n~gMTD36AnVjUov*t(v~;uNt^>+tp0jj6zEE@JWiJ/(MQ5&7=BId)D^BUxA^9B*UI3zYw;rUA5+Twtr)8oaS&wGD.Ki,g1+4]F+t4h;&1EWPV[iN=0
  vfCQ0G!NMc;1A[85e:YdRe4lc37n75;^u$=mVg?+1w;,n7e4.PbsDy$mXK^R;/>(7(n^i,WQ%n<=O2QmSz55RRTx:?KCiVZm@t8sTm3CgC+dgg~Y+hNSGP
  a^LFnlrSBdLtN6xm/(wOcW]Gkad6LDw0Xv4FEv4A(t>wHM<~M=T^2rApFnF@wR1Qs$3d,<xy~3U[klNF+vG&F;JPQ&,ecqs?VMu$tuPAaG[8A8+KUpa>&z
  !mDhg;XVKQhUV]u<4!B/sX:>jAo>Q?bBf+uFz0!1Fz.v44+?3OqG7BAZwq26=|D%5~]y~Q[=A2|XbF~18bkMKY,5bIu0/XC$_el^Gj+vSo)Oa)E:7.I~zJ
  +E0|i*w=r4Z2:k:Hf8@Wh2Z)p762JWSuxX)9&@(;81ugsbtr@YYP2zNc5NF1PN07C[(24i%><xZ&Ek=Y:w;vH?.GP0*?PHgog?,q1&W.E?f5lwW.?%*DY(
  ujQ*$Cvu/S~B;qmTH|N%a!Z&55Phq=$C78z$4@[]R/.^pxXzBm2WICL|SNNeHHGk0e6a/ZIO!dEWnH_g|~~Di>~AUk2!:FH33y9M/:@gBg|:/2otti]5p;
  ^QgTTRFVtKgLHQ7i$MZzu)n&<3IoH?W)[tP97l3!LjnHWG*GNLavyZ79I0.N2>AsCkp>bJXA*l1>>~=y[f*:t0b*Ketx(/*CxCFD00RhkCu<!.jWzdi!XD
  ~JlSHf&BQlgxLu>ggaUnvmumj*a>fSe__?C0/MCyINRasZ6ika]SSr0MF1XX.]OA.<:yH1t*3S|.:?LKK>@gA>DcgL?wq.@+=EqZr7[MYmSZ.mg%GC4n)q
  rA?exB:sltWt@.V!&RFZIU[QFpP6N/&Yv@][X:[&BORWI_wO0H9q*k*6G|!<w@?D],,%DF$,3VS@ky(0OCv&X&>5mz75*;QJXQ4l43*ovT:kEM7L7VnKoN
  7@1N6[2dghV&TMijiSj23)13:l,j6Qr=sY<X$a3+A+R]7q6.<(e?t/V$B<ZZB6uSMwEY<~~YXMRnF@n?2^)j@Ah.Bxx=px1;gUfOnqaViCp&Z>v&_K+xwE
  SYlh~t_)zz=my:&|9HHtod@[n%7>*3)j>))OB]K8,]^Z/=B2EQmk+ef9iF$03GI~G<!>D,@JE(A?SdEC>Jywf>%q>zeFCAaoOQAs,;CLl3CeE1jCRFT+K&
  Im9%~pRw2WI;Ckd[O])GGR,L&w!P@BO9)opC[zD2AUvB=uY=z^hD[+Rb/F).oy&0fyy_kmk|zlpLQ/0n=&BXp1O5Z]fEb:V|d1F7ml*Dj7,)O$em]w;WZi
  .S,ZpMI0]h[t/&0kUIOv:P[:mNv!_+p]zF@8[ww@P:D^e(8oo<|o1mavlpo[*_sSL)RyHv0;b8[k31e+pcZO)sR4a?e^tmU:kk>3>5u!H%xRc2mb+^J]oI
  M__1<%T+7+oV~@|/AJ7:uESYvN9d?YM8WuC;!BkBau,@01B[NgM38k4U/FzCZw)R&G.Ds>gm0J|/.WK(+nCgMfF6*ouCPmJSjpNyyXb$B57gJ)@$RIU.3e
  9.Sq2i?c_sEY2*qHJvnH??]eGb~C3k.?zI:eb$/Il;B7LTX:~7;Kvh5hm]XP;iW4tJ_~UTmE=Wwt~L!_=1Q%8i5.<*9SLxLWkD~uK,OF%B&9mJaG=NB&=r
  ZMyObNM(,,(.;WY3.IET:k9H(,tOp(CVauCEm,@,$M80h@AkRDYB&Ow+Ow[YvFsLyPy_U>HQfZK|Qb%M58sEtv$tk~ihY%ZZQU_)!ccrv|iF~ac2cwuyC7
  8.WXg^D&zZb9VDpqG]NHOx0$tztc/unXWOY*~w:Bybai.Rc$L>GY^C/idvI>2A@Ovs=7R%|sQA1|pU^s^qGs.Y4gI/gJ4:S/67VSrg3hD+o&xS=5?jP^V%
  E=4R9i]?evo3~OD:y2[pXc$,Zz)8~QuHPm~FZICfIbWe@JaPwwQUviqwV21S,p2W@1rhf8J1%Bm[gWkJYa5<q;KoY/r=r>*sIAgKTB^.UPb>K3Ifv]~J:Y
  aOw1NoCkW1jcW8jyoR]Q|4]fj|/z5o&A[mTB1[W_s3rnOb2aH5IH*Y,ZL&DIMM&OtyQ3b!7vr+5b|r>eVwLugI+ZB!r3Q6z7!!H&M4Aw).jfp2ZzA_J0,&
  l5KIu@v7OOZ]yaQT[@y@0eWYP(De@8Y:Rc81Ug?@/_aHvd1KI>.c8gt^e(.+N_0qh3v(IDy=ewqy;vHqs9r(JRlY~h(+[P3.yta^1E:Y9nNUVOdbV.!7bh
  o@sVv<avF2SopPo!8wq(DPVuR4o^p^iNx7Xy+b5LgFUqZ90e2&4QU7Nw3alm7zvsX9BMPNw!zf,Ma<ON6&CCyF?21<^AgzE+f.U.8o^z^J>/&[d2p@jGCG
  $k|UA<^h!O;weFzf.Cfcy|8hDl$n!%@_:F0j@2CWy=_XM/H^!beENdM,ox)%8aV+PgS2ZQF?(2BOc=z9IfUQu07hD(k^tKWQ&eL_*X@juHO$lJXtQ|YQjI
  k$rUu!/+wciS;C3v(U~*_r[h0o!sB50@B*~:cov|1)<y;8175%8$8FKu3A8_K^f@l=b(KaqO6D0%OaQWI.h&49Q+(M,r@XqcQ?r@zBWEH|4e>ssLy.X!E9
  V84%/4Bq]~T?cU3xXSV&P&fkJN|x+Eo?1E!fWU~+0V54di0z9V3,AhQ!6A<@kpkEBfsR<b[oFxQr_m^>]lU0NQGqxidA$O6WeP(/e/W3Yk=TDUUmlrFdZ[
  <+ZFLLsh:3rT:[l&Y<Rtk:^/5/pLH|@9?i<9a!:A3OE3[5Ql1qS?OaNeJA:&Z0j)yYknj=?Xy+tuNkg>hr9Xl!lp4~<*fb3[$jY4gxTxTjcTm(;P5s):Yv
  k%.K[ur?O05N)uNre$hwikb<NgEpGMWae8!Ongt:u0nsN$[c%L.Z@u)_f)0Y$eaB3D&^,3=%J%mK~gbIhkTE7E:]rxhv~l)4(e+8^]sp|:r^x@0gdjOL1Q
  mk>VE<~r6Q2$6ifw3zVZu!Z;TKl*I@/=gq/!U$,.<Q,M1)Zg(c9LPtpTp0)L4eyK64?7_**r%!%iPnorm>N$g)<2L=3IIL|AmcpNACWa!fsU)^SPQqB>?m
  paCWVe+(0fd%r.hR_O*F*5+L<ZH~TkJL^>@58j(?Y.J;uj>T0z=Py|tjgoau2Sk8V(@NK~@&~<Kho!7QHRt4/H=q[J^=A7@J$p593rT.J+H3spdR178F@l
  kmds2~m:HEO%Eqz~WttK<x:8~2~ECwXSnKf73[kIA.U8Z~eV%cE__aYqpeThL?c[>~^RgmWLByX:YMXiBVVRl~bqoW@y=rD)(~FhRv&5;*WTF|7z]^@Xe7
  WOc$E9c)!6Qtlvklp6u&+cjxJ<@F!uWRa3/hvMS%WDx8zrEvL9gV5:^*167N(O1;87C];J0iYSx$IM(S7QN+:YT8q>aqAqv8tw?CgDO%,4Iw*TccwHSS7>
  RUtKZ(!H?RQ[4iD][$f3x>dxxt%Jsk+WDP6YJe*2:0*FYs+g@JUt|;DoCFF+@gAfBv.hn*&&OP8V.ddG7.7j.hr:QZ2/TG_DmDSnQ[*]9$L%tKB~5WZu&a
  u$%suyXb!^p=sSO!xSW9nW<w8$^R6%@eVYMG[u09+OJM!ANWQ$VIw;@|Y9*hEsPh5^r$HiP=aG:_7=g[RuFTTB+4_V4?p~c8Y==aX6T4wQADSiACc&!t77
  X.$_gbO,pmcW:OCtjwzUiU^RE9%^b?i.%CQMMt5ilz%^8i:LUa*uaw4j,ayKIXZ&sN[QMoU_KQS01M.y_8G*+Z/zx?4&sDyoUX<CZbrfzG3,punW|,Bt49
  $bzN/Wx(tZVVo8qPf_dE>Q%Ob=F?+3|NXqGVz)ecQ~B:0e?o+OBT(9D5>f%@VvxyyK_[A7pXNsJ<e)khk3!PPa]okrl+[a0HTka=4bJ&bg7F(m.!/2G5$c
  r5V2P2LOzh%X!Yw<tJS4j<INR[)QmpwnZM]Ei^;dgbI)~32&?rfo9(GEdz^$rmenjLBnok<>)Ts~^?8?w$qbL.5bF=f]ker8.%c&Hq2Q1puRy0$8Q1,+82
  [g/PUCI4eoc5dzj;OsS,;eLwQGJ4xFg($=9Xjix)qBC^~:SMN$XX),oSSaDl_7iPr?xIwBtLPNFZZm+@_%4swxGJ4rBiZnow9V3gNr(XBKPUc&S1(/HD=G
  JLr5Ec%M(bA4@3kB>kY$CEDpS:Gz~|DdSjPEsN._03>+B![cm(d(*Jni9C,kXh&_sVOgi|Kk^S7Lhi6[Q,[&Krdnihp%lk7qYd].t%)B<rUjkMA^od3/QU
  +i)c$q^B>+|!Gs(zb~11>81!/zqR%gh:G*Y_~QVgGmQZ95[+xn=2c.8|:CYjc:Q;i>0HtAZbKVz&9IdP::8*E&y1J4MsB35^>kZE$,[jhQ9^ligzQ[_!X2
  +GhLvat:TUuI1Jew_c[<t;V+<k|[wUF!;ZHE9e/@IselHPlo2F&~dDC=&o2y!)9u!vy]m=^Ni*W9..gIpW@kz[JC+qjM3[gbv,33XuRf_:Qeq]WM17xR0^
  li8z^:IK)H3ufk6UJ2E2Gf<EV|VwEaZPo;ZIn(Iv[DVQXD)j]p2=9wahgg/k0*[wSL:G>%D&7VTsEOc3Qe)iK4ojHZD14+8y3Un]*Zc1VAaM@j=lXr,9zm
  k&2<<yYa6h@.AK3igtGtf>t$DZcY?CW?=d>UH,5M,^L[Ty>&8ReKgGWBdF&5gEe<A?T>$LJnaKy;IBHxdEzD15Fi%r?FY64cHZz[Z/fNqYu=e[I/?2xdjc
  H46$i!Cd2^RjtEv>A7E3C;oZrx*c0%5yRJ6Lo5VSWAMH.ZvJ!FKV|[=nr.^wZ2n;%|y*4j]&XMEyPp9yi[8J/zLI&^rGmGUj_Gj@soJqb=,WaG;Q[L4imJ
  E=a9Y;,<|3;q]8/FgCL5yp%b(:I?YAH,_?GJMO>.+6MF_bN29Xw4l9i)WAnR&J3xD:WleNaie+nzKXH^nZ[8UYLd5ehHoSP*rV3YpB)(lpG~HfURa,rpc7
  3O.FbEo]T;&EZLf[4f3L=FzjH2p?9>wuof?/YUKqU2(6g|f$@|rMK~cCdTZ+[As4Ypl@&j[2q<DJxIMOWUWLW0h&b1q2NLaL?ww3Z.7z!eeE9SHtbHnARH
  <kk3m%u[)uFGTU^~pHBZocu]AK.WWHM~%J(y(k.Q)Vx@;f0JybQ(z,_E638m@m)cMcX?kw5Fo)b6xrhjF(PC;mSYhd;?N1r!TDR*H<@YX6EjaE55lr<[eo
  vz!HPf0!Wu_h?7@6m&7YCXg:_^y%m8I@zLL90rF)Oo:|w~0rf~YDImxku@;*/:/,OB3e|)_eJ$yrpwMzt[k1]8wd9O3zMV<!Fmh&k]zBZ7eAbXw^&1N4.d
  &zac|DN>5Sg030rg%Fqg2*F7J_>S6=Yt;j/nVEHN_5*aZWZ2nm[sine9O*Whiy6+2&eRr=_>;eGWB5+_VZtyA9?=ykStawHt*]]m9e6^kml;.(qY1zB$[J
  Uf(86g>@!YJ%8OG*>M)bZB6d_VXvCuzJyVY[6J;9er41V![]<.pA*<QY<MQ_j0;(s4Tc^6R=*aiiY)AU>xSuXG)41!Vn!m4pBgom@+cnf;(Xsl<~PNd=3C
  rFudt3g4@%vbq|Vh:cD3bk~4~CwVaxF1P@MhLtmI:(Wf$nZq[6bP1Oh^ooXz3*^Yn(X!Ih.|WGN5ks(3pkbCG<_QibcBAk9Q7&e!6u&lr<nhM4J8Z;xv1c
  bd]]fGe&Ev3TDsov.WcSd/$48t1~QfjhqE1v?X!h&uJsL,:n[UgNp8$e|@5K36_&uby.T$/BE?34$1NEIV<P+%vx!WuJ,@[3$b=@]<jKlRQPydQiBMTK_c
  Ou6HcHzOph8kY8p;a,t]/1BiN(d@H*zTPEx+J3YMI728N7Og@cKC$2t?CwUAJjc+^ph/@f,^UpkOj6h6:h!8gjcj)ClSn&jHkusc%b_AE>5>KhQH|M(q@6
  ,dQL;+C(q,Q(wugO;kke_PN[T;/V?<3eq=GKjx^%:wlwg,,VY0P@LOW<]]2.yaidq9skkNyZ>X47/EWLoJ|n3VY5Oy5OWE!C*;rx5XoGwj79|T3qgfcx%=
  _tIq78bqfdXac(D:j.GLO$=lChwR,qv*qZ/8V_X6[eynZT@88LtnUw%elsp2~ux1/UPAgi1z6vP>KhtP9nXvVhg.dc>6&uRgk=!KTLdXok+j%%MCBqw^j,
  !x].x=A=8|0smrd<yLb@&nEWOhh/D50Cepd2ktKx;Y9)NS)j^n,J~j@^9b0p31erJ.toB%H,Is=v/?u=UunK>4ts|fl$jm]V+FuDT+B_<sZhYbWMdM1jr0
  >^bJ:85yN@AST||GmRNx[h+)t.BXh9Z@Cd%;L[$/jw=fmYx?l9bRNSLo^Cc5OM5oD~J&r2dJFbv]dsDjL$C1Fui_AjGcUo4zCQ=HD:Xpto>uFv)^O[GlHQ
  e_1d*TED;D9B:x<A[zcI%o7@:2VTGZ%|X0zSfOZ4/VaypU@4a0[uEoIr,F,fb$N].,ZwTX69xV+rjZ$688lPt00]?D94OQgf2P|dE7Cu*z/~w,>(nvPlc0
  WP+Ku]P8),>;(,i$/(cz=%Y&.f/;.h$auhBAq.T,Avc!gIpp!57GrKEymxOelmHq=h6_qL4jt(9%]41j(5o7od;>k*ZgO^v:9~Rl3eC1rdG_9wxq6B|X]i
  oaqGwUg]S;(=B]0]kI:@Ll7w5T?Hmtb3kqJ8J/]qhVj/w%qUUi6VOG=W%]Qss3k)$KH%[qKC76Py6JA@A%b&y/Pr,>R<$od6HvK!$4RW3A$Tda+RqE&W]v
  |N4TT1>9hgM))_VT+1K&N12NwIZ<t<G_?6]cqme](h%0%%^aBc_M/SK%uI7=8&1lPn&U~e;EiZ2pt9.h_]EDfV|^<8n7AkS]e=Wapl?(NDHqW1nZW(_Kj]
  !!~RN)(o15Uv6.z*U]EsN!*e*|Wtu&osB:,/hu,1PS_:;spxY2XRppv]~SuKnr:Sxt51jP.NkaSKj_9XL0(|E3d8FnRe7z:YJU;L6S1Ubbeb&6MY?9Dxiz
  l&39!nT|;k6co+u(n^!PQ_67xEt_|Vx)A!|ReqK8>rR>*/?QSn5z=x:y..Qhbp76?DB.1P]l5M9>6Zh0d_IFY>mIvqtt.<rQ|0z7]rJoE94N3t!NwjFOr)
  aB)OguuRWW+,kz&iEUXl,CZbPi*+5/M6cdAb5iFe%ohDs,~QK^T0m>ji5Ij4VQ_%j^);;K[9w?&gq^gqGanuvW@1UbDj3YF@S%<*(wGgT<6f%|AUqppXoA
  |p^3I,3Q>5sSg]@bu()ejdn~Cv!h9E0*g(O;M]^1T+0Z$.yDj4f=p%nI;i,h/<T;+]BL^wyzfg^*BNI^weidz=l&cV0IV~uT>>Z7M)z@F8R3NY]KbH<Jp@
  CFjY:88@H[VaA^r,st0tPP|rs=>9&W3^:M/_Kl0O2D/]caXIW1rN2/Z5~.Y?fl?s_Qhn/fBaSX|*7of=0?HpQx8r0$K;>[6?oL>!n+Ez$Y7pprV1Nf4(0k
  bF5)627Z,U$soh%ngb5q;X|?xsJ@$[c7J@4oiqveK9sP0~%6bVZ=TD]zv.d<7:o6Mn]A?r2;m7joh>mD!(YSX@9t4a]VKl*|lwmbIfZ?j>EwI;t9x>R.C2
  65sXh]n3=<ffd6!p!f)/QUr<N|3qgL1C*_^?)Lxp^vbCC,tZgdx>YWCAAb/k|s7E50%VZx6G;5||C3|ruo%MlBDu*^(8Gn3mwz@RteK]o;5xsC|^E3~5Wb
  ]JKPA^x$~]|L:![P8^Gl/y0m;|.niIxhE:/TmA=SFx8*b*riS!q;l1B(MJ+/GAsVb1V33[<aa>rdGq|do):wcC6?Y=zv)5_;qIZdv4ialC%@_oB,mq$$Nl
  9lnB1xrx[~!l.K2K+lh6sNwn;m*YSafD1=JkLyes]ko~+2KVzBYvE7%pp9|3D|!B[WTJZ:V?yIaFpJOR?1OXpZ:fZxbxJyJjQ/w.ltq[D,=AJCSw:hh$wn
  PCVNwWoL~t.x&xQ8mVi?~6wwTi5q/B@kv%XxD;%64:%0:upI)gB4.l//FuO[6exu|J.s_a|Um)[]5GDk:5P6r+TJ)*4b!JP%dw/mx@0k[kb=bD62R:eXJK
  /?KA1p$!hQVTQL8AeHEacy<~JPOqcld]TUE/lb]_r70G3@3!zB&i=n@uHI6Tg[rnlf8:x0245(_iEBgRTmtzZU.3ZIUkUV8Y(@?pV=aU%I%HIO1?DL$0%d
  U/:@0eJXX7r!!d%R*HD=WW2pwu9Gtdw75aD2]?ceDzO]2+PbKdPV4b~k8Jo4.;:0oH|yj,u$G=r+EfP,bD&!t%hmc(qr^H:qSkf=/|9,lDa/jTNmBYW]n!
  !^;B0]WOG@G[M6EL_&l9[%Zg$ijI]Ye8|T*AToK&PM7B129Pym?9JYU[>?L0dsgUUbDQ<gbEh~(I^PncSrc^WCTwn|H~P00wslMn8&9RR_0&.QwP:>dRYt
  N](LlD<W[@qJ*!:n+Cu;?8e^QJJDo)ZZ^=S^b/1v<mc^F9inFZlKV6l&9(Kk6(Bz=o2Et2)lp@C)BHm^Advz%EBz!rtJ)BCT$n;FezR52fnkYt1J5b_~eN
  3v>=.m)FvD3zyK.Ki.WlbY7O7H_M|0o8eusdh)hK4Gy9[hz,;9,W!|Jr&/VD[a?%/,XkPGay_q[t^$0x5NK2<@ql[lxNI1^RT@B$WpRu34[Rwaw@Bs~Q9B
  w=8UH[omd2RDVhn_X@5Tq$izmiumuQ/7D0a2D@aCYvXc5s!I3+Mg2cC=o+s5Z|!FE0~s.Ods~8p1x@YM&S2r[G[5O^mh&eQVOoP82)F2zJ>=y/^Qon/URR
  DpO_[R8<9VK/jFLBvS*&Rb%41*Y@?Gx=oANnjzdvF0|!,KDgda6n0T*X(RI]QnR>mP;bk9$OuYXzO;rxqhJWb1YhGHBI6i$?m%X+lI,ymrT>;A!yzH$|RV
  N?y53W8jn%l$~^03=kK9%Zr:s89!l0FfL^t(p@*toRiGE$::>lr6DHicdTd~RK_8Pk*]lp04y(Jq%;G8Ro3~G.[FSb*/IoX/jE[jFQmAlxV1zF[zgB7hY6
  q)3sBg7g.w@APe@(%o81?+uP|:Wagsl?.JkyJ;LADY21h^Srk?YcpbLZH31%tOL&525@I~gl[W+Pz,J=;xieP9Bs8?3BwEl1T5Ev~++UbrU9,h:gADIxUE
  ;RR?yYGr3E6xcM2.l_T9r_>X?b]__;55(l)3|+tQS]NJ9J!L$b5vnXZ&~wp]wDVgqoHgE]:mF6tD[fI=AQZo5dVCLCT6E4<W7Fc5goEY7(R&kPe_M_&+*|
  %R*%<,W8Ql4@cvr=bmiUIq.+^M.^<fG7YWs/EK5eIL2xD7qy6ESqNf69@7y1|H)[XTz9!Lyw_/K/29zem=6=xj3^U:TJJ_r=GdIWpE=x>v|@4]0~rO(QMn
  cVSx[G+?JMAUR;C4?z[(!OLg]9W6dkU(gha+UQ3kG~3^U(cohZF$ga[~>SMcX)0$3Dyi.UG:vTs!5tm9A35c8[orG4^4kh.x>nNyhzl4Cvg>;tLM)kbzU2
  ><]foJObwWM~Y69pehM+hLb=1ez&i!b&D+/ua*037]xq7P?Y7z&+O*6aX]9/tuax[Elmw(JV&F|8YBik!g9|w%PdHb=I^^C.6!.T&hBL+v+/in[25D/Yh;
  ;cwZId6!;>9yomUQdllH@qo~GO1cuH)LKQoX*e3weuJ_|)3|ZlLLA$V$!l/S~RUNtUr<FguT~XO5s87&m0OKZ@m[f3&/(5]9yZ.4l9H<W0|Oc93xIY%XfU
  8WFpT*./b(g!PsXeKCuA<GQ3fqUwTlKzxE/S~mjjqwI;!i71s2P.Wr)N+7!*^Uq4=*NN~RD@Jn_3RSs8KEFY$?(pJK=*e:$=YJ2@U|v,.heKGn%fb$4sh.
  8k?:k$2R<sml$&_X=EU0TB3ZLaw]vB4.XNsU6=G88ydo$VF]f:d!:Z>.%kw[av<:CRujS/5yY!ejYbul=l>lP_MK+]FTvzYV=kWd@5vdm=AwVIJu9c~ETY
  zV7oKy,g7U5~(E_|KaC]$%Uf!?dF2^WsxwEfQxuA3b2)Ps6S_.k+~d!UA1rj<hqz&Bc6;BCz18,Eb~<Dc$7*&sp5&9@>S8T=nyPhs>]j3UmybmS|dd<DXi
  nXTiy0e2TQ@;Jp]0olXw,JW4o>nJQ$?*<t]pe&QC1Zp4E86ZO4(GH]0a?azdKhCmX0de%|(q32oMZdP?M.bAZSt/tSN$,ib|.TKOcr4&*LRq.c9x%w1ZD]
  @57TH>>xD]^k&C7ccl4[~,&okJx;$KIvEcbFHTFFaC_l/U:DiNiFh]G*|N<a:(9&IcFDb_7]lw/~~%@gBZVgG0q|/PW^6^c;VHRFz1I:S/LOGbb_CMt+=1
  ~h013cg%b|a7xekv|ss7+%ja]pigw0v[s7V3Uy$XI7;XJe8lp:mT$)s+Q!kH[MULFbBr.x=Iy|skV(4jb*ni%QCf9p|sh/llvy&aa~%B[~Cj<f>L9I$Nds
  ;p@(n1t1Yro(rDr.m[>e>jIXxLQON!I1q[|kmK9BdL&@0h?^Mop,VH5pjHA7OWcdy)SjAX0j63.ccZ/qT?Vt6Ofc8VGu[kiJZVIL*.r1Ou>zXF!uI.30_V
  _[.NCzuo2X5oy6m(s^S3::2n^r9|j!Pt4bCetphVzZlM2iBRFwcry[=giiIImHcySqWN$[U0r%x8oC+0ztf&OhFpX63DW%Y7xRo1x|mS;OPnZ<eTrL4am!
  jMMUi%2tlPrzFI^XwG+P.,+b7Ytb+>v,Q4z]S,;C!~pz(W*ExquM|L3xERmFjhr2QdMRn8)P9+1;Y>/Xca4u,KgukKt+6e7U(KAr%KbxvTAB1uOCBHkDr9
  /A~ut=(%nv@~@yD:IKG$,$uy)?Yz8eQ%!YxPw=.C+fzN$C<&H.T^;xBPTkGMmD);p5/i1]ZVxnwZ1PI@CanfYxjHozG/~;fN]V1oB$Fx/d<hP~+$<$fmLA
  WrFRjRM&M[/.Ru/0sn6rLF[m,(~^fS~+wpANsI&zO3NOB[/5|K],8@4[L]0n^?j1/|dF67oboLul*DS@|nP24]*Cqd*.C@|f3>|XRZFq0td@O)N;M_CiHn
  g1nCXZXtN>nLdN6ALl2=5m^6@oGV]?/_LVY^aa;9?*lpwZ!r@WV,q*c7,T_/*ZNa]8NLvv;!T.zx_KbC!G!7Vhz.C5J$gWJU&tWS!Hn|$h8*zmqQDThO1Z
  SA2;lYflJbML:l7lzn0w+Q$1kM|jsskM!=|,Oa/)J7KtN|xzlP/kX%(hgK:|x2<]<FKA&KH)[0KWIU;KT0*wU]p1wmkPvW[1yZlXE]G9c$*C<eKb0)8pR=
  oqX3LbPV+f!g%bz<P;/mE[Xrp2I8ifoS7UVhXdohJ2blxF!AJRr4LnK(rGG.!hpxmSPcCuPX,Ms$aY7<wJXG&b^e5:k3eTyigl0t]3wWfVrTi6j:D&cNG<
  Zq~(oP:]Va7xW_O|ZTe3q0ob%63hcppqMXh;?7%*H*|_E,hLW_|)Q3,|H,q(TCgbLSwfU!W0=k8OzGO?$YrH/!Mr$.M9XwJCvTB<<W$NZg7U[zTPz~Q[|9
  R_GuB$v0>:S8~t!2Lke36irjbr&*yf47iwfw~U%B]7b7?v:D1+mO+?K82XJMPOmM1wdg5*5=M4ug$?p^]3yr]fyfMCJ<u1J|*z~sfpmt:y=&TH?U(8[zyx
  qPN2EF[,x!9/*Ki2!eT:qE3u,fKUm1~mPhoR8MTj=<JuR5G2o)DNsU!Cp:P9=XVR3&c$00[I&h]S6Edp]!O=Ssht!m!nQAxi_6K<5h[:6[1SVsi@EBOH1X
  ZP]JM:QyFE_Z,7YtxJhUJ|mPYBy@DhZKeVLQ&=_GP%z1j@;b1+>.[&G8Ib!(VDvvPPkiR8t?Wy/_]$)^9]Y&mrDFKjhrwP%$~p_Qmn9;hkO1w);>!Y*ur?
  H]AV:+RU~dp/9<^DS,:Px^1v254V4L~SvCzop9k/^]B=*,%&~)Xfa;g9m<E[2b3&r9UC5a:nBQZLL~dV+5X!N!%,E1FQl5+eexnNnID/1B%1cwu9!@)jSX
  ]oBu_l1UJi&CG[bW[wP^!&2)xr@@S,J+|S%bONv~T$/)j@(vU$fWv>@bCUVx7CasN2U^3R;Q%8I%|AV7Wcog_i4@Hq11Y8xc=U;q35)Mz1)p[t=TmS&7jf
  xc:(x0v@RUPLR^Pvg<b24AgJ=<$J|tvX+O^J%=l&cOlyPyNMgjG_>*cE[yHdPjhXx?Ng8%>vmYciCBT;d|7<AXn<R)2y>PyB30!,Kk;xsEXDE/Z7<i5/93
  U%J(;[X4@!3mLyg.A!NI,@@LdMU[4e0igF3MbOFN$YmGZ?o0);1%;.Vw.jR<s%J!Tx=RiVCi8+Km3~EpRL7Yx0TH^+H|(3p/W+vBhkpye_Nvlc=d0clGW>
  orUFE|FHOT~yO8EsFQ<s/F0jR5ZlK|L)65:0<8vZB*PuJFx[w~&X:_r;x4j8:uFoQtSDrv7%Q?>afyaMs<wq=w%R>|3CW(:k/hm_T]k8c)tJ;km?zOge4~
  ~rHs.EM6(LP/07ZLqF7^eDYv^[u%$EaEH(4l&ctRUIHKCw]wd3TDb!wa>r,/z3OD9(XnNzqXhMp0=6+U;_dl)D$)s1@+|N8(hearo$r,(xL_K?CtRM+GS3
  ju7YgTrx>9IPSz7MbSqm*/6_FlWow/NS*OYcL+LQiniHHdA]z$M?S]1Gc3!LokMbuJleH_NJu=!zQAE1PpEE/jhN3Z:F_cr/MLb6dy?Sbtk$fZ!I!^HMSa
  zzUV||8pKHn4yL?SYNd5Tyf//qKwr%s@+,@Gw4vO+pQg2wKv0WE$$s$/KgKLOiJlLT>K4e@HEJ?EF5Q^+?w%S0,_t5.$TYRyc9OxO3,NawBpBu>gu/m?6F
  |Zc1a%.uM6W2d|/y[BTuqvKb1u2fQh;IxZwQ4/tzDoj&8L[&H9<K0]|ry)SC<0Rw+(^fnWBe>l<eA~F:GMT/FQKMT6.,@5!W9z<<@:lmBu1*$uan(*sH!^
  c+s*|9m$RyMew;ulU>AmyV7kDR37Xof<q2B!]Ac_/J_cc5oV?|h:wPyT<=S)*WdH7!H7Nv:t(3%pIb4Zl_;5;2o|+e>nzhopK5XIfXAg0<(]~A&J_jYL]l
  pE.ZQQ&mAPRGK6K4W]gRnU%ToT!!r+[Gds*F.$8uhd3R1,>cIm[w3_r;CPFqdEQmjuXy:/MXq80~P5Aa+apZGOshpH46L;wi3Wdbm@**/i9:+ub]J;Txlx
  HoN:$T.SVYub0=O2^ennK/JYw,1Ua?^a7OOXtt?+e+7UC~s_Aj~T<*$a[]XP6X;H)?e,D2x7UQ(pCp7UF]R|6P3GLaUPd7S@(IQ6dCH>!|_kWg*J0z=(3]
  tUiu~1kXaYOBF]X,xhqBKDZ^D4ePs+r4^.BF&]R?kuxrHJ=Hx^pZ@dC(1g[jLTbjrwU1vcaL>y~M~)(g=Y|3b2&lOtIf>VQ/N)bep7*x[&6cT@L82(42uv
  W:2$_IXjXtfouSh8Zt*QzDIft5sWPJea_Ahm<7ZLN]dIe]XWYEB%<)CwhFF*YYAaZ7&sRKIm<:LetMDP<C~e0<PZmy;7pYTvFd<lJv*53/L^:G~EPtW~J|
  ]f~R24&>pkHJ+W:<au+$*Gc,niN0qsO(W>hPGgEGsD]Z>$Ng]WzNh+>C,Pg.;Vi=WSK)Yf5lyWjGH>,ZaR.(z**n(FH>HzW3(@4xi.+xRd|T(0|lV+tO:<
  se|P$IXS6jZ0&Kp?CL430U<wklndXeaqoLn/^e(!.Fxcn).Vq!;=/a8VLd+BAwk=(|]9UE&K]wjQ]|^M|4N&i]H*m~5pZXbB4xy^!3]g9Yr0J]Fm*i)v)=
  :&EeBbhoIzG~TOONtHYh/!ft_rq/I+3BCrL]n6)^^9P6MgV!~f@B4Z)^(+WyYTav|R(vo0v20azG_%5nmO*8[O7!K=UV3VH&U+Q>A[LOxbkB2|jFHp*4q^
  0pCr9Z&;,zCtIS<jR.!~hKW>x^LbU5]VzvA4*7D0X;T%e&g,!X_y/,auJuf%>59i+*xiuT1u4Mx=|^OzxtN^ewHyGi60.go*M_Rb,bYcN*HEYv7wPgl=)r
  yVdg~@wRAN(w4=s]G:/Z%,mynlbFFh,kl*FQY$alBp]6!CdCP~OY&4:H<f!<&VAW5kv2Hj,+^BpA9M7$Mw<0nKT~MlPW$g,S&v%k>j@z:vkCR000R^[6v)
  I04,qwitJ,!(+9:!fKrHSH,EivJ1a(aSGB_$<CKe5j@^AULtV7_<W/+%c67HQ^!nk%eNRD3c~ppUZe|qT]Lo8m1516P<Yj(Eg3Ae~zWJ09|EgQ_bc?W$O4
  Yt~z9MdF%[hCJSS%|wgI10JRVj!,aW$UE64KNT2*G7!t$Hg@gn.KQSej&Res<ofENt_5=UASYLy,/;$uPUT4AOwbh<OP.Fv(ARXT5PK$05Rtgy;YM]up_3
  .K3>!95%;rfM!j$Pi0K5K/F8mfS4+lDgn=ZvamS@<5t.Z,jk^+isgL!Xd_!q98h.a_t!&Ju9hYQt4PL&Z[5a]:>Cw[wlS=?x92O7~8hr6*rUMtY,*V<7^6
  kF2yu_>OdT]xTiGOC;8!TDo^H0[&[$GN)1q4k>+$/a0pJXMsq*+),6!uT3Qfw_>bI2_4hwIUIuj[WX1^./.48w@%k^cn*Hmai8o)HQrJQahL@9OrqhWYKW
  5+M+qnuC@v|xSW*veXO&eWRgS~W8L8<XfFbLZy%/?<z3Ln$_M%M4.kk;F8Ujf1PegtwH=k$dnCL>[lzIK0K]mPYWp?n_Kl,$/b/Yaxyoq(g(zgjZ/sXiVk
  *e0e;7SvGR5C~;|=dw4N:k8tnK<R5=(WlzrqEHl>15hgK=edY;,TjoGp56p/Ej5gKuV$X>WnKmLrM8<.bn*~Z+>Ux*C@HDIN2q6r,ix)*v9H|gDXEm=Woo
  H?0nR@BmMW>|Tg[mT<>KJDB/@LzM&&9NFbdo82|$$[She8:xUt0>ycrm]|dL(,L=?F/(BFOL,fOFZ<ya1R%(;R0G(R>qWvqij4Kyv8=5SE8!RRS!LaN>;C
  Tua[))&xWz*NfQm|(j^HP]ILO]JnUE.qIL+nyMsvHXxh]>BoZ16GXRB<=F5n:EE(X[/v*dbrx&Ozgf0KUkxi_dgB!;Fh)5td=~H8%o$[)|Trx6Y^zGEg=@
  ?lkg.w)~iZmd0/;*Z>23B|%;kJUf?pc[Omm>$6iYtJaKD7U,pqz~!Zrw,gQv07?2sYWX_a)EZ!Xg*YT~M:mC.nCxkU6SB]Uz9t3xdMwiI;x[7e:cP3U5Xk
  )j5!R1Z%y5tQ!%q=@ZyQ44k1i5gJSNbh%Oy4~BFk3pr7E=FB49HTu$?iLnHLv%B9drZya~!8*[Blc9Fy*@QCC%^@k|I?(3+(DpbPf&kbNOsbKqe]9W~i.S
  ZTk?9rxifK>9N/s(z_J,U|!tg+JdLM:*g+6TJcFp96qQpf&_Cl?O)o/WO?2wBjHV=xq)6]$J2wz7N0?SMEES@Y/GL<*e(_iPkKaCN0ETVeECNsNimQa$3g
  VXH!A3cw_rp1S)^am3=4n$pDSoLiZGz2b1xWgPG+Hz7Z6QoJriT<S)^YtqbhoDE1D=C>3)Sgdq,.~GG1ie//,mEdzP]U=c.*=Fxwj~BtkEU!2dxgZh$[1$
  8P2+p5kv.|v[*S=p.]&F)p!h^d_(Lnkv>$qoLAFhw$=HY,+;v2&faIr/sT[9y^@9v1ce(XEh.9Ew|!fIm?L?:kl^gaBB8tItg(r*qY;Wr6$AqIvOb.pjqd
  hY=*Hy86r*EBQGgh|6g|C~xQ?wXPx[i|=cn12tmX)l>qI?AO|QRWeI6,~wOg[%k(,/,e+=79d]vaFAJpeb.YyNQUHY7$YWP8X&S|J:~O%N?e3POLPCDf*1
  oM7jKz!D_jWUrP*2]Sc]eYL?RGC%pob/nf;^^h];Q]GBV[t|t~R52O_spq0X(P!LMhq931W!GY~MY]Q~Yoz+&e<4qAEWCUCUgPjQ6_/6:fh%(ursI>p9,c
  ?+K|Yc;oF%U<ZYF7^YjePfLF^h,~tezn/0?rK<P6abe2:cPB4pj:k_c6Q2h;&%E0DV+/G|xJNr&<Rcu<0AqnIHePu1:4t,)[Kq4gPqEagXPc5]>d;zPm9U
  tcTFj26ZU7ay7OYiw)kGGQ^]_g&%2C&ym1ya6o6+9x/>p^hmw28aVQK34>;$5uN5gv$hks~^LW]tY+i5Ts2w$JD,T7K!CdD%y7i/5VaMd.Irt9IOyK;uVi
  *)Y9TKJzey3WB,]|<nP!,(G0S[of(4GZh;<4]SfYXn30yubHiw1f(yg>!u1^FJi@G~rU8niP<~OaB[c4!e81)wVJFS*7;O$=A=RZxl~fbuyLyPSANhcbhC
  rjOI4mnq*EiVZQl%8<S6.iEh8A&7d.Z9rdD%sM@@.wtn=z|fCzYK*/|gOom6wK)yTwn&IS^]kXQ*PRseK7a0?o~8kYM5h8|&Qw78qI?e(>y46=Ms=s8?u;
  b~%N=vgi/|Ry5k:)$_ts*2gw/;_,,LJAOWG!7dQ8x8]hS^Z~!f!4%wL^uv^%+S.Uf1ZL>=%g>OFHe9f@J0vgSQpVaYp4l4),%3QW@IKtSxkTJ:Q^t<H/)~
  @K~!P((N+sC:hMoTi]6[qJ2liuknem.2Kq93J&8>]Qh.zr4s,)3I+AbkYqzTKuFTiZ~f1d1g,v/9W0e*Gf(ao^$,aH2EUS.=<n=s[h@y>qI%c7smnK[g(/
  aS&kvGhD8Di8hcXK|4a&6?<&y4wnW^UrxZdY7_Cv7pN*/:BJRc8+,Z;7LsabqwxP)z$Z]ET[nVPkc:D!6i*oVY[CSLuZb|j47WGIF+j=W/mZdZ92CBp8~K
  /hm^cy^lWp2,vl]^^VNoX(!&0)=GRQJJA.yIOCjn4!.6<1o~fKnLSf&MVN*O>vd<uh.o%,/Psd>8_pjJS)=yy7Hbe;|$CQs5,[4yoF<5KXD!k81qqhgh$Q
  Sk>m&3O&vSBnc/SmSRG6J)?cs1gt+SMlY_!S<sABKyxVwjG^1n]~]l)]fopP$KyVILN|.F/SjCh0Vu87CWQ;Vb|4Os34eUea?c,|7coCuSJBX<kiXQ3*n,
  m9Qo]!mhHNxZ~/(P!J:7ngN:WFDd:x$_(rOISV2WpiahWhQqSSvfDfs]/(%F;s*5t9)O9Jxo8dk,[V]bOQg2@oGb&<UcJO0H(%w,x$3Lcg2m+jyr+iHtWV
  >+f$cG]@1rSstEJrjwtn$WJpM:G.6Sj]O)E4%aezKF@ShCXUa+.cg5XfK,f@Z.:8U!9eO&^lH*Y|W,Bk4QrY]QQbsdougVWgH&TE04(Dz^21[FZa)WofUv
  Gq;aioL%acP0hx?^wp&u()=:Om~v09272gVuDLz2Sp6vy,4D?3~[LcH/yETt.)Rxg7Ag;Z?%u^zcHRlQsFM6i,y7!.x8<~.K0FbVqJX6^+s(DySuxr|$TM
  9(6K4!E[dQR/2Ci<@Pk$x=T;]91_cMilM%IE]BJ|D()*xerb36fkVo&l3z;<GkVjM_Fw&ECCCRL~YoChi);o:9U6FT/GJacp[GI8sAF7=rpR6:M,uri4q?
  .^m8CNKsQ+&c7DSEQc[F;xl%<39e^q8[93AH2),g@@cY3U+MMaq:|6uL_?3,X+SL|%)rMifp5L@%|uG5Z?O$P0aO1&(MP=C~@HxD<F/g5pw:SOHZ$lM/g8
  h;6e0%E*=*L2h[uvGjOay&.oeO(ZWWBIYrmZ>j(nV2VS/YLDvR(y2_w_,E0c&!)5$c$2<B3&L!Uy)?V3Ir)JU8?4*~.!a~uQs70TL:;B(onA0r7gOAbK=u
  (R@:DpnX_eq/Q%CO8t;jv2ag9uvn9b:m73NDU&L9c3p7>bnz3k8buhrSWQNK5LL)lj,V7ELgCY;UVK9^(4B|^K9UOgFM)ewfNWrnKSfRcWNRR1QBO6E,K>
  A/N+~T]vwfUnsHq9G/;+]U3_7NaD;uy^mgte:8i1t5qtX[3&(R*hyQ]_~>64aXSPTA1:_ge9)w@B@6Lt~(EF!Opj;.;I+yoCSZh%f!ea?PqXe>=fkLrkGv
  $mnrvJsF=VdkBoS;EH*pf,lRae;)GOu/X*qjLd$:^.L6nG(?8,~Dx)3>w4x1PW.)lITd+3AAH[7O&]MsAW2&btce1X29FVHf_a<_=HB:|9Wjz+^LwEv/;J
  x]Q?g3]D6B+_?YkE3i5kgDxU&n^v~khW>hj/E,9l=+$j_.LT]XE14Kjs@61]+pWla@0*z~D$pgUkM*BT0O&wQ2d<lysH7U>5ku:MTDTTy7t/[2W=NN!&Zd
  +DLFp@myh?V3]&.afKgJb/]mQ/U5YYdyG&jLw2C13S|JYF@^75mcz=!O3]Fto<|u]9W+~<>!1!6U*[,E!5~>mglciTQMMss]Nnznz.U/.[E1ZF+l4&WrvY
  P4ZoOi/g9X~CW@Xm9+esBb1P;;.cnU,<ylJVxTkzJbW4h1B0uu(Kgu,ukA]*F/LbNg72vp?M3aNPyVf1XJ5tCS,]srV=3]qN,ojHS&b+G<]+lP9N>Bgl7o
  q*fWa@]sDxO8;U:k%ia9tk$d=3C7eep?S^^Af?fUYv[)ogrYy^!86BoLC.^_0DC<,YI@I8Zw&j4o:_S=Je:xy+u^]ut+:U2.Kw(f[,+1i04hPF=5d[>%Dx
  qHGI+|>?7Zp+v9_nQZ&J2VyuH)xw!+5fB[Rgww^cfajZe>z@vJg((p;tVZRl8Q[pmo@nU[K(VEBIN*q<*5~1:/K5,v|eztN/8*9QN|*Q/0t)JkLTq06qBO
  *RdoQpfKu_B4lVolbH97Fi,maerqL)5Z+F5xC,e3+uci:I>r97v+)HtAJC[_4<!izPm~/XkyP5Z)vbJfE[2H?udKTRk1(9UQVW*kGy?:|(n/!]gC^v1Qy+
  ;ct84DWX!iqF7C=x5jSj,@Ntm(&.41qM|C|ogD0A4[:t[Z/eYz0%4ysoGik<7NvMlpE:8uQHa(4nf7rJjdYy<j7x3_6^V:_C2]4[D]8i*WOGR6M9V*uIq*
  15U;7sAS&Tl>NG(V?~)fpl!lxgv?;lU:kgQTj~P_YQ3i)]^B;SpwbR/r1joUFsWYT0I>;jX$j2U;&wK<8n>bfn>A$ycr17%w+I,UApGZ7_61lh*8uimM^o
  28*Ct9>^(KIy$0s0)N+8f8<mLeHQiffPR+/+GSYG!3.*MwaS/RsN9h|_|+:ZK>TfWRZcwI=]g|*I?H%@eJo]M~3sVr,pNtsg_tNUiP@MJQo(9<<6(*!/P0
  0&upncw5m2in4?cVne)Q2a=z7[sSIptvJM:f>1ZaiM31>Pv%Omzb/47/xTO1K@>of@X6emm<B0QJoU!mY(r$>WD&:n8$t[3~&DTs&TalsLGQZ&J<j.8:b1
  ,rTT~%qt&_)uzxY),Y,Ni97t>KD[tI4;x%HXq[*d^aI@>xwco)FY+j.Rp)BC>%I:Y6p*>?$XTCP8BeG&gzoql]p|GLoJLDFgd_CgQt(L/Tc>cX]~?IY[gS
  2<_@622x8o6iLCiVjG.|&29hAlK:IEKYCr[[>gQyD67||rl=7w|qFCQ?cAeK7pYHJ^KiSY$=QZN2cKk20iVSnqkn<pANwRegr^E+c9B=*Ubljb.jkufxnt
  tYmaeQd8*9dJQljptDGRLWg0e]ri6?7vhO.kPZ6JHEQt%tHO!rLMjS4LL2)oQte+k9g?R]77=wVf(TYJ+:v*k,nM)$YPjS]>A|O<>TNpN83iW.NgrUgK5:
  Jv[qloeExg]0:iEj2S@gGbls&.6?J|D=YHbmTk27Nk/D*yZcK$F:V3+sk=4p:E@|7zL/|ay*mLxUe8=!XGAm)M19%>l6+^taY[Mx:Eu<*=|E~@:M22c?=d
  XN^!v]*1^3|_]1i;MNEV=%2h1]]d_1J5HgD.h$OLLK@izetsbVNW,U&:Kfhd&!DVybr,xv[x?1%8J7,Oo)FVP=BAMw4sdWpp,etx84n94f%*v@:/z0)sk1
  cD=%j0_kg;Y*bLsT2:+x?JY/Ri=),3VV2@krBivjQjw>>2_XOdDh63HUMr);(J7o|9(M5!nkmef>.Ytwqdr^9Y&0D&;nwqdEtvsvHm3.h=iE^vhmTy&bk2
  V,ow:CEYU0Z6!xqnT:$i4]*?cmsW>jA!Dacw&u1x(^KWgwC>JYSWtDm%h~,1Qd1Z(11JGq=O6/9rRt;poMi5^L_xS;9qYmgF7FVU:(/EnS9,wSMxc0lyIp
  L!.x(w05lBRrTi=5:A<YN6X34!<HwQD9K.H9A$AOl&TfIZ*v%w|/d~;$5uH/pGu0.~>~7EO[z90[gd*0Z&5jYCzGGOn=hnTB;zp+AZqy8DX&i~fZ4TUWg<
  !ESVlS8%95zr1?4f5A%/0PI8sD*H.*$uwlt9!Yx(|5WDi,i@H9,$j.GKA@tPJt^O776M4t>nSyb:p!w_yn|oh[*Ur1=]7NA0;TTnDh??u3C84AKJ33>UEd
  p_nw_!O_W9W3:wxdzCJ|YagiPht%~vZb%:|>_3SmGu>Zm[u6r*9mEFhBo~+vE,<2xErj$CVkEGK^0h>Y@+zIgatCp!Ri$4rRMS(qrB^PA+wX=V9i@TtVsz
  &_fez2z6y1cr(avu6m64JW>ZJt@~73:cmN;Q:*(0sLX3Qo!dcg.uVT335F&)sPDv~w8?D|c8wUt^e]dGUira92&ONxvCT_B<ZTA[8P]UZy,=PwFk[+@>3m
  CNXoG?WI8GP?ybj<;=?MkF2$yRkW1q,T^0?Xn,1~Y<Eei7_AwvBV~x~>NFW[PifGp__.hpVS+mz%~cv2c7S3p_0ONF?VC9s<]ye$au,ws!k]g(M+R:~.?a
  )iX70l(uQHSutV*p)[<cFCy*;~C|X0mQ!?O>DW(f/O[J:ia*m.iuL;usVORoLP|+>0VI;CafDrdt$bnea+j4I&y:gb5>wkn:]9wxe%;[.Kfe8Urce:0*Db
  m]jbeid>o5*gc[1]QbJ1r_T1IARmapb~:gXkjVu/t]Po=8wwbse)AexGx.k@T0EZ.O.iXzG@|GwqWO|1z=!hZS^Gn$O~&K1|%9JYI8qK%Q&<y392E..HG&
  :kavhCCA4e>abRxR]^sO]rRb~,GIAFZN<esH4YiaSi!6hOAS)ru7U^~bg^ru)7f).X~rR4KisMiI9zqGBjPYe6_m)QvPQo%7qm1[m_0(3LWV*iRr>9kadq
  %=wm~F)m6@%O[GASEhObxru2W<U,G>3_xpU/TWuFb|.HjiEvLIPoxTfl4H,i*0Ffs.5J><73&44Z$Aw6+j@%M.8I^2[S50Z8ZrB69)l(dzmCm;LU3AUIF+
  <9JO;$l!ev=ZahnS8~G%WyV^6LrCwaC~b^4[DgjMy&u)g2Ee,[hBKUGq$JThheUaywQo;eOHdO0nsI4>)L!O_2N!).VgsQAST9j2(a=J4n<qaK.fhE3+e_
  |50.JovzR$EvP1xsKYLra[SEEIJs_CN&d[0_Gke?az!&HLOL^FVLFj(5_D^zD=at5%(Mse,TPdf+4Ug!N0T1Laq]aM~)LphZ>irpD/qkq8/549QZw3v@KZ
  3Ln<)kMktd=b(T!h&/u8SOb_2kFgNqTlQ)E[<A2WinEB*YY9eHG2.hnW&oW3w(/9RG!%OJMUh%wC9,a|h*w4tB3@z9_>br4825kb@3$aok!=WVc%uQ!QWt
  O_2+k1,/PvX]CkPOV2RgnE2JD0TELfpu9J6rJeh&W2ZPX$<L]8Zn:MgSSDV%TLKb]IDb|S<VJcc/kl3L>J^3RtkY/e5Maw,Y<;4Y:$w+qzqxNlwGUoO8sP
  $&7]E=@S*[GL>sMnIPD]MP,1^R6P=,CQS6Z[coVCR:q6~XrpRt]v9!R7a7g>LdY@?FBs9[GvdNUinHQgMZIU]:2lveFJj)D3|Ru9*DcaxbeMFLRZ4$(Wie
  >1Ff~x0~VqOhNN0FyL2+~i&2MtHOB/~KbcF%>lDP$5hAwL@u,5YjFQ;;?tigVTdHRYfU8xm0ew>HI!P0jh3EU1[g$w8/^nN/Ugfl%FbTz8ZEYw)^oO8mvo
  G|3T|UTGi+DEET<&42L?d1Ex.LIH*ddhi[LBUwY$miLE_WB_Piog__Erw]UDwW:@z9GOsioL93H+CKhqs?kv?Y1[K=lyqS.5(fEx3,M6[xjPt/Pc*4oW67
  bRyM$%B2JS_*])16U.,(e:?m,R1X_r.~9w%bjKbBiCFxF=4m/x:OUQ*~,LQK|C&K_2k:kO7]AvKM,k9CN>hjt8~/TN+bYQm:2.%Sn/HAqH~b?9xja|ukK_
  he?6~]Sy?*p&>_.|Zpf,$6@K_ybCm*oNBDqt!Qk|ACnS+SFFdxMWACXZnF;,(l:wy:IB>vsBmVV9AG73foa|eZSFNzq0W$bVM2uDy*5?$/C.!aIYhocZ>Q
  476y1Y|?p25g;Bg3?w&7w.my>t9YsPCL]lxI$1DpC)oTNTZ*g~_QHbkqwERkc+I<L8J@JCSF.ACYPrc^EFbUMtYTw89yd]Q+.&XH~K.E8/[cRXKc$Cv31o
  +a.>@tVt;Sr_VfLa.?K2[aDKsX5Qjepbrz3VKHijV52P=E:MKA49:O>$q*v;vv7(t%%j@388n]@s.vy;3>sang6;!TR92eVL6]n6+T_(Ac8njmsIs3u3*E
  ]/iRg4<c:7Y5(ANx5>JV8Rfsw0O<=;k0[F5wafyk;WB1%74cXj(/y~9pkm4]C1Vr.x665^srew:_T@.LeIBQ$]IN2v>fR.yxX?u)+rQunJBv|tfpX4M.yN
  U9@Q~LqV](h4>y)Qz~rjd.NgR0%.q<Lzfrn7buh79g|l_sOaSU?:RVfYt+G5*n_zIw(o5BV(PJG|,QwrOs[r0Od/,nMa$of:sILHAU8[J5Oq5AXu:uEkU_
  UQz;H4ROO^Q:R?!Nrt+|J(vw%]Mn=;I>!rGyeAgn*nB7.h5nW~PnPHyH4yLmHeJ[s//5@@qQ?UU|6%BR]kPz&:vWX4x^a6]xYak>G]b5h=Z=.mSS;M*W,b
  =MVuh?kLK=zsP^)Y9fkp?@AAQ,w?os@Ft)TvPrN<x~:YHUn_eveqt%h*;<<wfa+/mH]J_/;O0(QWP1lGd;OTh5:y,IP7$ykYEUKZ;&B~~@0uZ,41<O3Go_
  MX;6h]B$s3x$k.Wo5O)X<JBxJ0;iquZ$vpM](SiTk1eONtQS~<cy2FCu]KcrP<?$L6)MlBC;8SX@uL)!BfsRCai4g(~meZE|!mm~^zzlL6ZDBj$?Oe+t,q
  AW%:<|!]w>tI>1AV_oQpI[A^mgy+sck;D_jyTy.4yHN,).bU5W=Ij)]ne&o9)Qp_a=$)c%3l+5rpjG*U|OL$5+x_(_0CgqG.!Lb~zohC!nUB!)S:YU1m(f
  Q&k>NT33e,IDDN5OR1SJ>zZvv;V2P~kk=KRSJHk7bku53NBh%[2xl1!K/ARX4s^Y5vHf|tl=)[T=&P0HkHzIp^5u:1&>,pt_mN&0zUx|3.0eb/We3s:t_r
  04c6a;Aw1w)Vmg0)/7D%(hN1g6Ycu^j;[d@)*,Di:$a+<P6G9cq[*Lh!*s!3eEpoQwsoTAf]py+DPT6@07Z5dC+XZ5nRKNOua_$qJ<0MPNs&NDr^5e>(bP
  i>;A:r@;|=.pkpuLuJ4*HbV~+.)J+Lv?wzD=ram*][yXy5&PH^BHS]k1.j:0!5b1sfBp+;Vaaulb8cVz82~?3nS>I2KWN?G*z@I^p]Df?Du6ejTd8SHV<,
  EMc:^iXv+vmbdYaXQ]ym?^,RI&wUb8i,$=LvL5P&Sik<)5CaJk+PZ4B60nsE(E09%us0D^c;nQVww[1|6aq5QN!%j<)g2Dz2,Cc+80qGt=t@cj|SX/dV$r
  8,;8$iCDgn&yk5wBKMN,AN1hLJ8rqEV3y89O|DEEyRcQD!1P/5Ot_UZ<g57DT^!oCQ]</9keo<<E!JhO5+z,b4&FF(>]kIN(q|cpk;5]oZ1==|mee9|CPY
  K8*.R1o87Ac93xtUMw9c40b>]+)]%d&E/[vzqWIlO!v24Nm~UkuOon=Aqs0~gOFTi/28K3RtRea*B)fur(r$mWD!]s%%q1Yxz.pzG1c/vUx7rp<fA[jwAu
  M@ZGd<O,:VhwI3[508RaK&/jD8t;j]k<JHQN+gqL!P^,P(yNTmSrs);@i,_Yoqds=*2N(X)X@Qo,NiSRrp]^crK7Z;YOXFnU;A=kipRCNKRwSPg?XcY(uI
  $vf!<9Uf=|[^4|BhsxR;PkRO|Z%FhjzcU<JP:J=7%St(z||X>p^jJ3g9mAcI,Iw+Y[NBp/k(N)pAXu^$]d%)PW1Z^yNQcMV7>5^0gv^J;P,Fr%36E[+~%f
  f:jc*5/j1:t4>iAJ&3yfQ!&1Tvhp.22aB3eq4>Q2Pr3(44U0^_9%rrpNHIbQx=IdO@GrR$=XEHRast|?|31*JsOc$MqS^>%QjgiR%B!lrd!C[Lbp=ft/d3
  AKglT@/%IV9%aB>n@kI)qfsl:[Os.2359@5uPNOJAGzYJ(~>^p0q<kV)Ob^8@RwEr[_![g[4dGl]xeF5y85RZTxMf.a2(rdWErT!(bb<dIV4b/Q?=&<2!b
  &>Di8qLemHN.@N%GJlhB$uFIsl:%!zkC^udKmv5$Gd9z=~U8tH<7+I/KM1a7ip)Qw:>BOAmFRT,oz8x$+p|$0<(cHEejFU/1,Z3U$tXMqWHbKhbhL2k/KX
  ,,4LYf/(1C7fXLWK<H?Y(;qzYbvClKmi2+v*SXS>A<O!F,:EIuAo*VQFl)jhYgpx;bb|zml[7J(t|.[B3n<Ho46ReGbXY4m*8)=R3ThfEatv+ZeEOt>wR@
  8p(_oBTekNF|>KXqANY9M$1M/POE@dT$1:mh4J_31|.l%lSY6|L>ZB<Lz2XyI!N:gVMEV~N@N<JBJ(1D>U^d)1]?JB7fZVW7g?<uf%;h3_MA+>Ab!eV>C|
  ak_*<V6H&WWS:2GEGUq,TJ*IViV!&c>r66:.>!jm!W4ql32,QWCQgjBq7R(fu3$U)L.*K@EH)Q*>gME^C%c5X5Or3i>.fT9g~6s%hxtrw<2v*~v<+LXgCu
  J1?N:Q5^w41.T,bdXG=%/SN~|X(nJ|6:c7Elt,:lqoRif~m(7lZ!@ye!(gf_94NqVDNcKsCq)>N[lZJP9Xv_,CR[<&ZV(Mg~*~/K0+s?ES~w7!+<YwqaT;
  $6TG$|LVWRE4V?tI3!SXx?+_lsvK*3>cvPPE]XstkkMSs)$f4La=)G<7=e/*9gL_[RNh71>)Or*Vsp4yGbifPg1D8?)L,bD!h=[Kdh]@%8i<@pz$+pS6^A
  tV1QWK93Tdlirdd%[MCIsxzv3s~$b!<$CUU@_xc|*5%B$z9;b(_+zYdw.lz3@qcfPnaXbeuS+5uylzGNvn%&gH9$8evdY!SM*TL,Gg&iBLxAI>vGngY.!t
  4_z]A[rJu,[C.qRAae^OYeP3H_M&3C!JZ.PUtT+pLX78=lP%Jxpm~iGtCjXSwZrL1bQevs)B,$PO.<nlbcXok)x673*X2ioJ6M2+V;Fpp^QwP_)xIuLM=[
  wW~M$]UEgmm>4+nFQ@WZi^m)UQUN(Io<g:Cwnu15(qMDR?;^MA<uqd1M$E8^.|S[u/5Ul$E*>bE|r+rF(!NX?Sc?0nYPQwHolVQG^E?|Zp,LTd4X!tSSOS
  )Ps@0/qVnkxU8dY[s<H0|fm~k]=Pt%Rs;Ru*64:cb:F]rxBpOxiBw[A!NnDV!m<^s|VVV(0jvrZo:EI;,V(=P33unU>%4e+RZqt;RgT_cIY>d8WpfYtUWP
  nQW+6~8P.j,ka)]xDKfOXZE=!:T<r&ZYxm(ueUyY$vkktA[D*AHCyR+0*WDCSMKRv73~=<L91HZiC0eRcdQ,gH+N7_p0?5IiReaJ7aJPgg]H7WCdA>CO40
  Gco/;V*^kdEm%SRJG+$~q_iFB!dul&o>JxAAPnk_(=RDTVpd$=_=NV@+j9k[hWp@:Y2hp>vCVDIQCCByoR)?t!GO+A5:M>T!:auAHLWw0]$M]@<._EsY2u
  >P|x]=JROSb/i=aIokfmrtcv7>AECTZcrX42@%f~MsEAqFD6w~zHW|gmWu;oHsTy<=V.pUZKt$1_;sap2K=7;y(H6e;FX>J&8.:v1XBxSL:AW4P1v_S%r,
  DdUoT/PMzJs_c/|*VYtNz7G63K>l;R|6!|Oy:20H&uG48Y,QHcasI<Tjbk0Z>BZ@;2Zwxy(ZJ@jqT$y4ima<F^PAz)bPhU2:bt]%MlRma)%mRe/Z]=d0ud
  |UD^p?1(d3Gc/Z(eMVKBGOPmuUJ8|0a_k%va%6l@;dy?f36r1Uw+!Qv~B$*He2fzRHOwwUpSr:]DB1:4Zh@O6+HUaQcfU*m0ROFKlOCoSJ(N>dQ=2bP+WL
  A)KVyJYtarUIOoKiWvd5?Q!g:&S=Z&t/3T7C)pJ(_o%?=/OOU?kTBNK5c:8IUP=c9dSA2hg~l;2+IKKWOKtRYU!qc2]R>_9tj&Jn[W%uiK)xKL7c<^Y6.n
  K@meE5r4R.iqtEE<XIQX06%oLKfuBF%;WnanO8OPJf<7*bUtzeKB4nd@ix0i*^+UJILyZ1y!xHm|WDDpLo2oFE.xLCIjIp$c(&1kekR=Ix]%qc%nt4Gx_l
  ykV~@hE6>BTJ!c.nI+_1%:=,RE<$wB_]4fFx0e;u>(.b0<L.nI1;yBltuyxxeoRBHmK)w[~qe_4.,ctmarEK+UZ:2K$QJc]eN>$=2v/M&W_)r]X9;8S?yU
  AA5]Dw~]+*&ks)Ksl3ry0Gn?pIdyqIYcYD83FheB3)k6EkOhd;ba@~P)AjRDo6TKo8%7MLY?X!MB3^@W2FK1mp,xbDd9/bw/PV8+%zid!>~;%Fd4PZ;Qar
  !k6ZddMAt<j@|xs^GoT7@,.u]k*Z*@*ollpG7wnqBUU&KH+Ox85P<_SIi|rDa~i@t_86Ny5Z!ni6*X>cGe1*b*Fw8grF[A]+s&aFV2LK%xI3+To(m2R2x(
  3knlBX$wJ6~u,cZ020CbP.~yvG9h~O@Q%CfQN^J@~_Be[^bq7n.eA%eJ44C&hxy,h;&;xt=uNDY@%3:Ads|=~8O8]2$&i>L>%XB8ciR1^w@eL@hr:ppNxD
  Yjbdams*M*~7,$Vmwl>p$l+YDN|G9vP7.re37sp*TI@31PY]v?k.)=g>AqS8/GbUcv~k6.uYaq:3(4BElwk$yTI9v7i*@_iEMFcd.JiXplt>FbeD~:gD5^
  5cM0*%7a:16mnLZ00)u*CJV]z|sTPzc~DZ*zuQqq(AUP_.[;>rEy>Xu8I&z7&P3nZbu3>(ZS8bobDxVuu+u32_/0[y,3[Xgzol=HReL$ZitZ%aWUgj]4_<
  NNt<I(0coYcgV_?Q~1SxyCm=fK/&^rq%M!_=LD2W_@ZO!cS!|%:ThkN3%<?E/Fj2@agERd?A,)KNRqdq>bLGb&EEx/sQNH<tBjer3]y*~FZy%?N9Wbg?Y;
  skkeDfz[1mwK%Q:JJzzOc?7E>dA_)Bm33Ms!O]aTzmPCvC)>mk),N[B<NB8V1[5Hlw/lKb~7xgwpY<BQ6Rx$4mS=T~zt:0Bs,Pm5:n=y8TmVTB8cda1JE/
  exyUF07By~aXf?tsBa&HQ.2[;,PxSR|97.X**s9k2breQp6b9nC$FJ~uk30<Zl3mQcrf]eQU5S9Hi7=FwPh9ZpY@m5e>,j%3eLbn?=!b.diY!FF4d9;IxW
  kW2_aRmMe_xf|KY<2&NSy8K!X_iV*5[.rk9;vjM5H^.UFPRolIHk_UjLZjU3L@@IfDiB%BEeg]xM;h_Tlmgc0]s~2]NsJ:,Mj9;g/i6<cPT2$5^VYdqa$7
  6MWrdVJOJJQmM;g<@I3o[Qys>]:n9h!W(%zVD*],p,ls67^a)si)hR1@tkp]O8H)&FF;<F>1/aKRuLTX,GEJFHaN*~FCVN1sE]u9a%dysIFgY+04T=Nw[g
  Q0%~.+rF>v[0?CNAB8:Cc@=02:;m(+Vb[aY[12C4L.eTg_hmp*FIr)!Fy(^<dzcLQ3v%.&*j3_g9o1,R;ocI[FIJiq+J>Xi^o:DllS%k|6,j,QW(A2IQ<2
  hj0^L/IaauDShPtmqAZru_FI&Bk_5N/o@~NM[3Y&QKE<C&_VY1GDHwd)46LQctFg;0~/Oe/PqHlLt8z>=xcr6Xhc$%F+c<A+z.g?9)f1vC..)ySvn(JdMe
  O*rLW<U*/1i$R9uB=3;w&/jJWK:r1ZKS%PNd=[BwVGB6MWa,hT|&![X1B!%fNO85Ch@;Ll1.$!ie)(a2diFBD@d(dBBWnC<@6M$ML>CrvH6K)!<8~>Ivac
  7D0.uuBpLM70WAJF(u^.]88m9_YY6Z!E?6bv!l+$tt8q4gbHi.91A;98t;$pxi3p[W@qm~gl2@etI79J$?g)UNXBCA(((*d1>d]%Pt3vT:=Wyc%27|NkH]
  OfS_ap1Va%|G|6)ptFi+,4O3QvH~p5C:um(2Dnp|0w;Mlu~w>DW|$KY]m67UgP[t$Ph+b_XQ&j%9&U?kq&EnYSyj6CmUd>d$%.b5JM;A36dbIvg|$*k0$U
  [D$wEM)%8~<,(kTac0&^STUbZVsn~MNan^&T3xZ<xK$!y()v9Qs9=Q:$!xtdf&[.82IV4J>zgA_7X8rZ]t8xFt^wn&DzNpH6^:nAjSv^.[$L9T=>^>p@_z
  o|Gv^h_3?d$E23|e*EqvOXm6%Bo5%8?PAtxLG;G,BT7&Y6t.wp_NB1Z:AGEBT70[4@72FezMNs!VFGuqWBqC~2q5xC8cCG8[S+_9xALV;|!Se;fRu.bq|V
  A3Ln/b]z?9lEFp3pfyCt^g,zoc[,=9W[Nux!pXit|8D1gA!BadJNGQMQWU=N2cD4RPomSu8OgUB1x&$K0!^Y4vofpc3LyU=c4<@XGp1*@%[W(PQ=!PPcbw
  Ei&SqarKuK.aC9W%?f.Ad]ULAC?s$,65S.k4?P.v*er<Y;n(Nm8^2G;<;p.K:*M<^fZ9@b7|n@Ta&m,/?mp@Cr6KIy(3nwz5h216Z7/VQwXcNhgN~^=a0l
  yP6nE[Lu=sy4r*8wT*N5,muPva]V(:KCVuC>~fHZBDBRo0@X8mtzXcREJ|OfDlh$V4Q)nxmMFUHlEQ$ssf)KJ3ikW2F%GKk_y(e9>4$~989qFEd/xw/(xt
  8iWlX!]TqT+O^Dx0;[h52b)]%l2Lo~@7:|d9KWj%^@0|hSV<yOLqq**P<E@_8eM+xQRQpP3HgaY&SwA5re;m=Udaa.?X*LLVyhUA0%IWz7Mu0SYziRe1.r
  Gdu_a&Ta5oEviUWRX~+w(hLy(=7$6)3T>n?DAWekpKq[3zP|Q*bC[<iF,/jMs4|x53K4y<+D;Y=aU3zq+2o6k/UX.qZe<9^oeC^;+J6xOJz?(>2*|lfB7+
  WE_)+$~_(TTFeYH^2mjj9dL63dUZ_P@0iMjU84%v3&N/m0Qs*Ps^X(cH]wTMSy8Qhh4[9Phx7+nu>t9:m2D1vrvs9VQ?@ZgKt[<ERiqt*:Gd&=5k5Yd=aX
  MqpI)B~||~oMxGI;tN71yXP!5%F_>nH9e5y*W=Y~9*.E]>mpgh2zy7y^XvkFa3K_RC7?>y1/k/IBOd13<16U1FFIQCH=(|9pZ8qd&;_U]x%rV%>9>jep$A
  9HVX|yn3vHZJcJZ&xh|*p$8CmLm$]=^k%26pE*|*c]@aR@OzPc)X2W$;wuY5Cc]>1)!/wLKn5h@<<vYpWf5;4bIH]h0oS[/Tcm8$55vZLd~=3c[tgXl@m!
  GNN0b[JOauV;?8;7UwH4pDgf>l91lo4[rfDx[UTA*+H4J1wN%M;$7yVaY;y/p)y)]E<g&$FgTU=gsqM?TDT$~VNm!Tj+8ReQKGMkVwYg+=LCD~qK6*XbZe
  D:;7,b<<tTa71fp0JN,PgM2M]t@~Ce]Omv:u=4)J5_Rnb:Ivr=k@<VD)wX~=fq|LEq7K6WphG%:c]Wp^dZ^zB(Og)X&h[Wkf|qi%fnq&W^RPSYpxztWQ~k
  5s1%=t_IIM9qLRv66Gg)*0w~<T=%fKlC@>ga+sAs8/<+YWV6U)/[x0ry$QYWDjY^h67XCAFBLb<u3R+poVtm<AKy95U,sk?oR|.plOD/8cf.9aF*pH;PLm
  &qMNanj[.:|LRaDfCBVkV>](E>&*srs0Ql3&3;h&A,3U^^,c~x;oD4P[o)h:*EwuHQK~KpMon_3jLJa0%Hi1DQvqlce/F2y0XFXIbpygU5sU_bW~+Bo8I(
  Z$5<@xT&vihOn&^Q:N]G2H,:2iVxz$(=d.QPO<mF=9C$]F+<w]b1)Tppn|%HKIeBwzz!1fyiaGqKUmxa:VMwL>P*z]7.<JS.7R_],b1nLj46rH9aAv22@$
  xzu>E_Mu&zMmCKpWs~iR.tJT%+)~z/wpsVVR4UdDIIga+cHSlMu$D^][i*U,7w&N[zeJyBmz.)vrdvo7FC&n3s[SjvgPmrK,q8k|b5OS~ZFS65$/T2&vlv
  jSesj3GoNpv^TWq8xwycY94q]mB~;QBXbp3=Z$0~BT8i<D<3|lnsp+Lw@xnbtH:msZIWHYcTbyNrW>)TS6@hx/!jC5tfn]:q|*23J,]HNF<5hEM8)5*xS>
  PquM6HHqez,z>hc|FOXhUphiYT|+p_k:KX?4[&;?H.RSE[p.2OSAEn~,9dhUx9|A&bl)qR+1R+6u1o7s5aSvZ,O752pj5+j^c^O@rS=HpDb*aC_MBBJVAX
  fuCV8_g6$<&7ne6QSGZOX=dN3=d8Rz,fxs:u&yPfA!xh).DChPw)5zW+lf+Mp+ew+Ktw@QPeZ&_1Apd5l5S=OzC.3<R9*)R7)U7KM5$=jqjpQZ0:_.r2La
  TgOyO@CZ5.vE/X1,XUgtZ6x=qt;e$%&Sypd(HLi*+2e1u3Ny7j?FuvEC]z!16P;U_5qE[ndmWg5c<L@AT[acNC@)EPeGx~:)CcN5gW3nKsAndR@UJ8=49]
  %e4XmA$Ryy4f_0BUAoZH?$viQJ2Sv|KYYX4V!:p2tWFDSjx(Srob~n0;H?K9yv$x*sXWBp;c![n;c2Km2|i)n:47gz(k81*&!NjI%Y6NT?$^P>X>@AC61L
  WQ$y0;XggeK(!)J.F_^Sr$TMpiYz1%(oq[/]@?=Y>(]T>/&:mV6dS:U+P$e]@wnhJ9IbZfuSt)GXdhEizpU+X6qeF8oc22%]nR@eql)~IKg;Q*wDTKsJ7)
  /h@43)t></!X7+LoOsm@dzBM%|[KLyK(>SujEc|Hq]I*LZt,QoO/@QbhTFmDq!?e9))<+^*Yqr@+ju%~1V5Gwm,)?9oLu!%a|zxzlDDfpK)nM!q]Mi+q&>
  VTj=zTtD0<*H9TAx?U$[*)l?s;Xo?Y+C;R5!p6aG%L0NpbeTCPY/)B~X+]/rb:6Qi!f$3.]RyD7t%V;asxuD]e|:b@*sTbdP0):YZL<;;B5y02G,^i.2$y
  .Y|v%D^cmp41%oC>KSJU_G(PnqlcVXwV[UWNRZ!ju59hv%?H1S:=0e/!ZjP4ZO5h@7M($AfsVx$@$39^rp,,0PCU]t2]/uBVovr<Jogft4Fih!ve?KaAa6
  l|Wf|YwVRY_CYA/[;rQi/X91Bf/;c~]T?@=iSVl?lmk%<=s)FYK[1Y(4^z$6)a.aSDPbex$jOjj?4r?9b?2Aar<5%Hko?RWX6yymQ2DY,3mIly;MS,vvmg
  zEZd$0Y+yJ58[zju<MG>Hc2)zIrNX4^E|NAxJd$pX0s2&[;4+/?0T_Oh+n0*6zi8.DE*D_8PZ]B6186<CT%?o&]o4O=q!J6~m/=G1sv+X>5:j6Oz53CDJ&
  PT1YR|HGe15hV@(p~5..*%D:W&)Sf80F*KI+o1;|+t27xU:b*QD87@&;b@P0b)Jy>x;YWAupqhI04lB3rqU8bW*JKsAI$>+bLtZPba<eOKL>1(6m<+r4,B
  )C?kvfY]:UErW$R)NwAOq=/rbg*?nLvyF_;e[SQq8LZ(,0G%~zkSH6VGLZ=|Jy[,LYn!Qc|t]S;>K_q:8B60fR=J*kyzCiR_%N=.3mN$_luvKPoqGy,i0Y
  SFdz21qm|^URo6B4!W~nmC@~@qqHlhsp$c~F=jDr(<RHUuW6@g4M5Pjc1296Guzyo;>+3WUeZv+h~@=Qe]o$8k%0OHXPlQ?M+>%Es(9=QI7UdqG6NOI>qw
  fY~^,dW;yY(Rw^O<7CO@dPosaQ+HFpJqS4//+=%][38nn6WqM3>0R^P&0gVxpqtPMl6o=Egci4xxs)MW8w+nY/LWZ;MeaUL&tk~rA1yMU,WZsN:3kYYqvg
  REVMgKI?bwY.rruq3rwHOS8%uw0Aj1+av~apA0C&jKdn]*:hfE&2A*[W(aWdc!f93k<@$w)u,~3@@p,I<:?RG^JnF>R9aeY<a.&k3mVV_S1u&&:6c3Bvc(
  It~.ScHk_YHeqpoygwt/[ak.67$*Pu/_?[lR:chKRpX.2u$ZUULW5~LV]dST0N$n$=Ekhcg(*ath^aHINfZ^wmzgjO8vTAHD~D$.VR|@1WD]]JLw|QxTB8
  X%qbXouTo3>=Im4AU%9QTMRiA$Y(0koRA8ET69|B)cJQp+!A<7T$e,ocU4(_8~A1@Z_kOknWa,|EYJ@^uRvHf*5eda.K7Tj_S6^U3sI+wS%srA6yXpfK_P
  ^/=uG^LN41k5@fow)9GqLlhhn78j3p!,*ku^0aFIB_Zzh+UTd3frYr~[]_+&TvB.Fj7a=kOZ~mwW[_N8V|*Nd|QB90+[Q)?D1Fxo,)He,Wk@4EB:*TF2WC
  p+[@Pvm]ZeXVz83T$N=Y;mq>^cWBdFay&sJ>wI=eZ[4B)xYtaBM<k>^R1sHFJVh,9Q%i4fPdu]l(liQMsgLC+BYhWAeZ*+~=c:S3h&rb5C.Y<=&D|~[&^|
  FIpiRxb:O^r5L5BDa)=|][PouVVm<^gC(^yN&J9&jM]E:+(3SmBK5qFteW.^Vcw&A)US)9,<ynakAm0MzAUWqpA6sv;QJw.Sd;%Gg17r.6IjwPO*FCKm,y
  QxS.fR<9[;4X%)qa,,7R+buo;g7R3g5:v8Rtph?n4~F/U74s7ytv|Y5G%ZyyH$;Q]TIqtllF&gQWx|XMn,uudd(3Nm01MW13vxC)%9OT[%lar<F~4$_0gM
  9.S:fQCE.h=DDv0NR>S;e<BbuQ]g=DB*%,7U!WBL==*y8i9N7@~QohLm|X:NXyzqWf*btYW:!Zq[Z|PV|raH4BG/JyODT,R[X!DXK%Ga^t|GF?QJ+R^m6&
  J9Voyd@|So<C2:]@6mP+NC39bzcb]5%wC_1>u=%Euc!q*aXA8iHv*~l*2^)VL%Q7[N!$oYN)<AlY9y]2(ibfcjumyoXSCT2:7D,f,3Rq1ReF@q8_mHUZsT
  19EVo2F/RT2>bN4<VQow&C8l:GI%LHoD$PwaFD1hV^(H&6<cLU|<Z<i1)Ma$)WP~+vWO0;w|_oR5m+5SH(IgqA3yEyrs<brX&HY:a|VRfNo%DUEU+5:F+j
  e42z@As0|IdFq3Y<VBF6+dh~&i,sVW~+d>aGy|]SCLio&o?zX[_0^N9z/fPjJVw8nt&lwMvJJ!9|(Rs4U:?q.DX7)d9[3sRNFYa=ee|9BZQtw[X1G8]CC.
  PkS)wh*My,[Z[xH<qC^hVE~T_3$@+%zd9V>]RZd$BaPo&[6kufI)t_T8+F8ZfsRcwnw%UxD+k1^H(X6&z3Lk7/*/BUeGMZ@tMD/q4vI>s2:|@HO?;yGJkb
  ~T|78!YjCp1Gl<4mqP<^e;v&;0sF&Zs?oodLywF4PSp5~sCPUrj>i[[|g4eiZ6?B6*pzYs&Ffi7TA4|CoN8C]wB;?RIxK(j>f4I&x0nAO2gk8+g$%v;VAB
  $f5rYLNDC5(+m*mTjY1QUx)*xq_e=eMCi|@6((2@AU~KVkcu_@fMA=:mFFrZ<:(YVyhHA,ufrYnJh^JD_$~u?ym$>mBVbA60_?F*^an2VBOvqJ]*sW6SZH
  t@ZnLz(|Z=QJSf*!IqkHe6~qRM>gNJG(%px,dJ|Jodu8*(Lazd>eiI1Z)vB*6$xq_6RS398zX7VBx|TgEyx.oC]d$^dSpedsnFiTP$24]UiGfw/9[+!(aA
  _IQ!|n*pdL%01)qbkb7Xn=MV@tA[LPegx@ny)uaTb!EDaLq6w8jLTQXhoj6ufeRIW5L*N>SYYWbK4,n~X]cs)X]YV_8=SlyO+E9=Ma4xR?ak;ChZ[dwb]<
  d=9p)4m]EsVV3QPH4$m15f.nhB@1dg_B>]n~9@Te!dE;DqNIz5]k)wF=RV<!?7~7YEwi4Lh(w]iroYSwd3n~(3k%52bWkbRE+t.i%U56tHNdzjf=7q5^9h
  Y.AR^%nvNP_,t(JxEMkh?bi:^Ih7|^$Xi3>E1=DY_E@Z3TNI~UV;Q=K!b<Me@V|m||>H)QdNnAVKlMq:9OFS.[1J!&]+2pgIe0XoZ]RE+<tqFRFkn9bS7d
  @VKhl6ae43>[w.vJjQ.!Tfgpou$RDH)Bmo_v9Yh.W(8q0Wo;<aj1XWlsIUjSTS*eO&GsoW9T88(b!Z?*)e0liSi3JeoiJ:dmzQ_&I]YwY.lv8x0yGrpRcq
  WXuY;;pt6/G0/^n4*Xc^n(tp)zSdp[!/$m_@Pg5Y@NI@I%)OdiqShOv@d*$sc+GZimKx18LDd)z!:qYL/[4O;8n*?|2YzlF7T33<RG:m%XSy)|9$VXj*o6
  aSR&m(@%tD:pm9/C~g@6f_v/[j]RJubN+m^58ag|,n~lYIcd0~;oSM1x|8Gq>RsZm$hldWDwpqgC|GlP6Og6K:&>)WLelWH1C]i)xx0?7y(a|Zc)lkWK*U
  PW*sR?pB@K0sJuzx4T65ukN*i6~w%NFA2eEQ36Xo&^|U:zCTtntx2f7jZZqriykF?nXxu?/gi)o?l>)MhGw^vP1B,w[uxx8O01|AKv(vKP%podtTHFvFhS
  !MqSv2UZ9n4ymuYEo,M^VG^[cXm=k~ekwxhUR,ViubA[>K/G48[?W4*i1rFo_j+x[$[Y3WL/k@0ChN6g_/r/Nw?/nRg3LH;I]Qlh<V%x8~k*FKm?BN4VDg
  Mg;bHAb@c5U3s_E>s!u;Ux,,B1!g2OA^H_|IVYjjE3F|<2%P34o)2y[qQyUPd]NOa+co;j>)gkriOSa.Nk6EbUALlv6!.A&!|,d_|nsa/:m/ACCV^,6Wb2
  v.Y3u&zM_r[vo+;JSGBC%%EbL,ZdOQCK4iXyVEp%i&zdxEsNh~bduO!y!D8L!tK[oi|pnS?f5<7pKi7NMJjH6EWu&RxvGIwS+e*b)yL([.I5+_5JZ.7k?P
  Y@^2vGuwfvn|b@?BjO;vx]d=N<o;1%s!;j12P9/L,;MAgA;Q8RND+&R,OLPFdy.a5/F*>f.y!tV8x%g:,Uvq@rJcu;T.L!%$yh>qA86Uw~[|@D2=A.AQFE
  dn*)z~pjFm?Hv/K31c0nak3Ley$5GqTo!rqpgQ5]VYtPa.7^q6zC<>y<0o)tab4&_OOPoM(f~HM&oHA@oEW:sI.dd.Fwc3m~/$Tw)87(sf=b^U(f83dcnr
  >2p88eI*NI_,;J<Npfi1<$w,!)Yc=r1qNZSUA@1W8nkZ|_p7[(!R&)^[sxV@a6xF!Y<dq_!zoI):DzNi/wcD=:HWJASegneboEK2EyydiR$V+e+gGuIdP*
  ;rN33h($O|[sDh27UyjU;y*pSsQPX02_kavtx29Ux!D61JG5^UV,+uT&5OK?@hvq,4,9d,Opf_nAScujSaaX:Ob*O&e@^Z*u$G,gW1g?ytDyZiF41DR8UX
  mnEdJ:,T)937L1f~_OUQ&].?0fQ~JKZBxQm/u@jE6t.ojdNF9:jkAM:X9y*K_VF=0FoV<ju~<IXO|R*H0OB+Krc:hwBbOeAnbv*pla7w;jmq4_;ujXhJ/h
  I_A8v/gj1,E^PZv@T8tY1D~7<:.Yd1/DcTy9BWHAn)<^V$ISd.@pP[$Ep]8HDE[[|9il1/>i|.oz.KSmnuKs$z]0xHv7Yhmgrq%SGF10;X[_[%(M<6n)op
  nG/v~);^5>ir9^M0EXp0MB]W^kpT3xglHwTJVb532696vQ]<spWXt_M11%Y7lkOdo_/PHPMVA1?(b7u%vw:)Du*jZ%0lSZ.idHR5n82nk;N^vxqn_lB*II
  [0q/lr9RgF?np3<317LyB+x9%en]u:=B$ZSIEOQen6uW&G@0RTMi$VXQOV&Dq>V^wkV,YJTIuVBITxwan:o(v:nd;8HHx<<xzD(9O4af%UmYoU:*kfKQNT
  inBdh/!+&Aw=J@0;&!brM@87NWs2m7zeW<?_cuu8ppa1*lsN@6y<=iRIU3.:|Z*d|tQ,gq8wn2(O0,]9@|KTW/[*?l|vYoHvC$Jv+kVbTo3iQ=i;!>l[74
  S)|?f5UGo)Vw];[fgM8uLmSq1C/BEB7C%,IA[D1)>:*=Eb*||(>61P&1KO?Y=/q0|vz~7Amj~K7mhT9CTD%%oQa+eX*~dxrOF[KW:U|]2&!&jZ0esc|<[o
  60iHl(&XC$7v>Hzu?y6M.qbX!bI4+>SR~,nR;0pPv^C<4ZwsQ|ACPo=5,cnHyiiourQ!b:S3V%<:sf46/(FX(=~]zh9KD.:3<(k?A>EpD!z,<.JO.$EGl9
  mh461D,N:r7knA)KV/OF?K~PNsEO+g<YtU$o31CP]Jnz_tDz?fUX7QH1a.qew7EIC>;q4])[p?^n+;nvA&Swk,7>k=r]:+4Dv,11XkE,nwgQV>b339fd*P
  P0/syzno^4r)vW[:BX<8S>0QT81g:gF+6S9|3DMTA;kgx&c&Wu!jJ+<iI<R(L:u(L2ALk+Jr6[T]TUz_,(PHGqROw?T>UQT.kkn0ff(4=1(6L?m/>X&RfE
  VC3!pWm7b|V^w;gT(RLdP@&H]e=OIJMaWTYiipqT;:UPvL2O$sKAFnNrJJja0Yl?e$O5kc&$LDfb;9?.[1HUYVmxso:b|Ur2a:9qOkEE<_bZA_yyZ5Xpn1
  8Z:</TqJk54ca(|bT<G;jNxpiOAX2s@M%:F)8l+zKIEsfzWRzbpvB]@2YS<ZRVZ+,~<FF+XT9O9BvhG,C$Q>z8@^_+7qmeh3xYijCd@4OgRy5H?(%ul35h
  <4/ITri<EKVyx|USCfhx;,>1[)]UE+Y%sJcH:6b<JmkXbPeMhp@ouh;*87EZ9HYjYw!P@uSJT?SBFr%n1>k$fA/F(~XuC1@x36h)*f,k9Lb1tMIgc+p|~A
  W/8NT8unN0lOgi|S%iC^+p!IOUiIPJnb?T4:dUc%CMC%wP^;UZoNPsM*4<m5lAKi!LS=5]BbZQ5+F/.nl(3,f3!U;H2$ws%4dU[GeH$TWu(hzertuS3DPk
  ^dTcmx[MplWjF;<xkmCP8=3V1dO$MoazE*4wukd712|.@I1zveGRo:5OE@>^F9qOWC^n1YR|EnlYLsosCv+CLD5NY,LY,;Z[H5eMq1]NuWS=nJN4Z/0M+M
  OGBu6d_GJsmITd;WVEvi5Cx>XWR8SMmh>^]49DEE>B<X%l1vHV0=aSr_tsqLAS=T|c^VC__Q+oe[%mL6Nwc/)IqMkrZ&m?dWb@XWDxYaE(c@<6D8pot3Fb
  ]wJ?L7N<[uo^gKkrC4n^Gn/Sd!f;V+/7@$%Lz|LAJV~aY;tA5Mj;B7pt?B9:+s:sCDmj5)j|f!6)+;t*F,k!pC[*vnCpFfD&=d~jjxp+ydMZ;]qnGbJ/=7
  76aV^EuM0v)iYhX!I!FLC%:91OaEe0/R4B~vOw(+tCnm9(b0n7yuq4f:<|@8riN&X).Y;Lg8fQzl+*[dL3[&Q^?Y;!(jb$erO!GoWhTQvqzDCxdzikaUGc
  c~0~]o=yMq*F%Js!v5~eowzaO,6!7!O*~CnnzrESL8Fm6Dz*HzXJG,7!cAaumqdhHTn6S+A1.U?)XL5[&3Xu<._ESaR>][,tN&=!!X.eSD2lhQ3(DAs7*)
  V)t6nZg!|m1u8QuQ52KPsqK8E~sTAf9w/|^pth9lq@H2O=R%*jcLvg.PYWnDJk);t>tA>v5;@YW3N<f1DVYKM%m_V(BVuTUsGk$aK)VZ_/GwG2iVIKYsln
  <_VuwTPJzK!OkJ^/maQjGRR%0!L32JLL<&yue>qUT<%w4pul:Z&H]MP.pjf3acXXgPC~UX|hPk/YaC[75]8b%D/|HC(R!/Uh+9hQgrCLPqO7EX49a%:7::
  6s7xv,SHUKffyCGA30%vY1PcOR$*P4]p~^@<f%^:]vPA5&Xl*bYh>AoD=7$HL75&85FI02?&6f8>(<<4gXgU3vX4+TM~cU8~Dt*q%=GkJB_ttnEeQE:A34
  2c=tyh5.B6IjR:J;dR]AzDahV0dc_6YUb7s;P7Qq3xvweB_+&0[(1NzkrxP_q/2QL2v$fRKM*VFTnERa5Z3?&O+1p7&63R^yAD62v!%=Q.iRVW|Z|Cjew~
  ax[=+2fq;DTxNob%grA.OC@[fI]m1E8;yy~Vu+X9INs])Hh@E~kiL7<M8v8*cXMa68S"

end CodeSurvey.Text.CharName
