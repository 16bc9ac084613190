/-
Compatibility decompositions, canonical compositions and combining classes of the characters of identifiers (Unicode
14), in packed form.
-/
import CodeSurvey.Text.Lines
import CodeSurvey.Text.Packed

namespace CodeSurvey.Text

/-- The tables, as texts of hexadecimal numbers.

The first one lists decompositions of runs of characters: how many characters are passed over, how many more follow the
first of the run, and what the first stands for. For each that follows, the last part of it is one greater.

The second one lists compositions: a character and the one that it makes with a combining mark. The mark stands in front
of the first of its pairs.

The third one lists the classes of runs of combining marks. -/
def normalTables : Thunk (List (List Char)) := Thunk.mk fun _ => splitOnChar '=' <| Packed.unpack 34308 "
  lTIUehgTLstR;/m;+%*t>UrP]]?LL6!&,u0?lwPLJZKA3GJ12.CB+vDycTa*^r[>r5,oZe8*d4_bUk.V:5~_x(i;aF7A~ci~xhCstI|QyW$Z84K&6.e<bS
  UFZ?EK@;]sepn7>,QfooNh^Tzx7hJcV1JncpK|hoUEPLU7uZBk%vt76V(!I2rbLdhhEMl<Bh&1rWPkQ370(5]t6R62(cW@ajGt7xon]g*:IpK~vNgb~DtX
  ~]<>2lT+,b%*^<Yj48aMZ]Y9r+_$+)Tzs@,8YOQa6U,4i64xUjny)MtT^0l.O]],e_SEM&7DVVl)?Cc5ET$gM$[UF%g:eGnf(03SPDL;dFTSMu_lKK*SyI
  YzQ(rmU8heGw@s8^rU/fCeo/C6wyfxeyHGe:^$pR$Rhm)0wec0h5Zf5mWYH4so7?5hCfuimy$bl1Jo?^[7x&96*snq~dd53+%]Io0tpemr<BdZ^KTIG6aX
  9mZi5$?O!tm1ww=T+^L,eS5YfD9zz(BUpp7ezlp,yd2v&IoU!.bOO3Ld1$>z9a6NYKLqQotU&~8a|m;%J)yw/ioWJh/(7t@Ln6,7tR[F,&w%ez<MaR;&wA
  E,GjS+Z:y,h;MJmMfir1s/KBBq+t1owUK*w%u]pm66Wl.lVzBr8ki.6Fu/e,0Lps(7Mmk:_)V:F<9N3]Gqov4drnuT^9:DV4t@f4|8Cttr7>KY41@:Qr(p
  &^JEsuyK(t~gaw%|=miRxkCq8:@<R9z/o:y)+%g9x^z*&h?wIvb<FfJ/=[|%:lW@1kT1:zbM<@XKMCq)qVS|?H!_K^kH)POZ]Yqgmv=A!Am,P0PZ<J(Ykq
  .T*qkA?$E6Zk^:^J^aP8~)eExq^,$zCu$HI<nU)g@M68QJrHBI7WD,A>C|lq/pn<A2Kxnym@HYlU7w,fCN/D%%ytYq[s,O076D[d^c<wym=%]tB$M>TH0u
  ajE53;4@:_O0zRA47hP/AwL02dby,X!pfgq43<e>%&<S_==bZp+qXC.Ga?6nh(jD@%QPf3Nrz2BJOA1OR&hvvwEBDrzC%0?uFr8QY4TouL!~$C6N;bg:/R
  g@5e?y_1w_>x6<2t1ot9(5vBaYuXOp~N>GvR?D8Xzc~RC9|A1f67s0w41&AJlOAf^3Z%~@V4anjG?<18uq.]c:N46m4h@;>WFZAxuH..C5<7ir:At?4Pk9
  bLafk,4ntoQb)b+LqTrd=3$z<>*5dD+7H=3mZSW7KEiZ(u2720C3M|spk78PM+:Z7;n?l7n>GXDa!|IV|vuJj(q4*q*,l/gj4DV+_4<%riXRBXa=Nkw9CM
  4p8~|[Fnqi[QLXdut~1LUZhPCsdB.Wu$(6^q@<QcPC9J+f,t$K1Y3Xm@^/zAZ;DS5<*bR[vgcf[DE!U.s(r@?EJWq/i/1~%31$UYStzb>XUeXqUX[bTea3
  7u|XxI*puqIFvPVNr>UO]z492sTFFV_h(W4egCywShqMX7;b:o&<qOmq.AboBT@v42cJ,J8&;&GP8iPB_,HK$UU|TN6^Ec@U<:JUJ)Kedp.wM;<Q_f3I<h
  CJ;J71kjWMD73>/FjQ,&t.&odGvqjyHD/+_Y9icxT5|be|_Ys8&[o7sO>g3_1MHOCNP]gL(g!PEgG9MkPE6h%4VL]WsU09*V;[jg,?k.hKAA&GX[VHOyaO
  56QRB$mTncpoBPcGF.^ph_lTlKJ8)P]b*MlbACGJw|vIDFh)T,A?9~_l<aT?y_,b58[Aq0i9MvOH<00.44b4P4/o4J.Zw6g+>/J7rYM+.*B8NxI9Z(:i6E
  [f*Dr[iM)rDD>68uj~/uwqaA^;/Z|DAp<L6jba0fF0K|*EW1TS@y3CulzZJ4~B+7DPczP,Sx>aPOzNRB]3Y):=0|D%f72TCsshZJ4+|G$y*gHWa*KOURKU
  x)m2KU>nHr2pk:=&8,^|dDqh>Cf7%uYF4QVn/d>e,vXM7e&emeAP@E8|[.&sOgqlS;~iDP*CrhclUO]z6^gA(T!TY.F>6KrV.bGyu=WQ5qUDd!.vuudrmL
  9HM6@0=x|18oZYq4W1ptrgh25xZEBd[xqW4E9?A^b2:JL:n=p[PbDf$+dP4T4n<YSa]h5,SH$lEo7*]q[A8,przqI6YNJ:5!KL.i)+eGUG9hqGkJt$h^w|
  _z!=eO^+s|h%@TBE%sz~P)?X]F_fg*UziuO>B>kE/1?rD]Z4$uVnPMOY(Z2ZfitdFy<VcT@n]jzee+.88jQYm.TeAQYW]o<r1gAv~!o@tF]PTfNu9*.@EA
  yed|?DGMaq]0g,6Zk4[7(ee)wh^=pTXVlGTX(kj.V6N_+d$)?X+9=0Y61!n^~c%vzsTyMSX3q5*oh;/xkw@RuWp2pvW:b;~zBM,bK@CaD:;!tBjk/+X*:j
  7gdc48uR&_N1ffj5F*XXaH6NLD+>Jd?QsFZY?4bA:dvU|TYlQPLYKwB/yiN><Kgv1Kk(tCKvSvx+Tfae]:2DY?3tc9nXFSmalHcg@AKuq8rm)S_0Wj3R@8
  Lqcu7J7OZ3%v.h[<O64>Cx/!C<nu2p<HQD.R?(EZmEy.?.P)3uX)!kd(zTEtFfGkRRu0wf@Xz4fvkkZqZ1$X6t^&|]W8wLJ!NS8XrVxVoxJf;BGdKfsW:?
  Q=^!R]AYfvfA3q|s;GAU|2LfUWe!tTc>Aiw|cgKmF3w<TJ>e@;NX2wN[7H/!N|7+>WZUz6q%^HjzfK4YY1s~S^.|5R8i]D6<2v6vy]dw1fKRTB)b2>5h:K
  |<3Li:V5|mgZAc=6f+II;9=*m,v~O^FEA+EAEq07hosY/zd%3wb,kH^4xz]F>IE,j,<4o[[mG0hR,1ZiBEJds9O3kTHh+T2up3^I32TRWf48?y6_b)wC+d
  cC~R!?pSBhe4rSks1c*N_,(GEjl^AS^t?!EVCPh^^ua1o$)8KpSU>Pl[a^0aI$xzuqWCp7CI|7iOd>p:p+bc7rnb2*ke</IP<+2qtrF1]!oR5QXv;5XIz$
  OP5ea|$sB%>.Go:52xVEd|(XJxlO87WAkQ%3Qr<vkX)xL?g*gak;4$VBPo?SFEG%7/:~HH2AWVqzLJRT9j[VuyqJbTE(!AB&fA1!K&2&/nF42M;9wM7FLG
  vh,qYDC]l1Y~$oJA)~i*)m:MU>X@4YDiD*NHLH4AE5yNi[bX9ka)@McM~u,|Sz(l4Y~NOnYW|HfC@!tvNZe,IE[uN<;;jr3ghu8ky]<]a$bzhezGqFm0zb
  NeGS(icIQ|8E|F;k$3PMRM(g9hJ3Odu|<tAd_U)3%7i5)lT!&fDl$YONI=!:;!5[K:R,JnEX+uTj~eQe?d6>.Lu,mvCbVrknm2(:zcWt>7R[<qU%FwG>Uu
  ?2R<.t_F*aN/Qa/!o~KYc%FAmDx]!;S4DarLT/dvHb_Spju1gYWX31E_iQ]eA~l4!bUMSCFfy8OGxZjSz;kax5HZF6Nt]jtvt^jw];L%iK4y7UiLcMUR,8
  ;5[%YmR3RQL$eDp&p3%$5k|6!;yx/v)Iitt,T<iYfK6gsbW.SiFs5=DB?y1Jv:qy/vRPSY]G7d!]PVT~YkB%p%qJr1qf9CMm16^un1T7vWmPZY?~VnWp5K
  .PGPT,C+r<U1rm6oEpw&9$.hWM;zy$|Emi12S%;gY1=itGn|WI_Mfq>rY*g)Se5hiI;[$&=H6BuOaB+A=iClFNHX8^KJ*I[NB?_9oY]+Wo*XB1dhrEP?.B
  G^0B5]/Ny$/Fi^Rb^pASrQN51s>$$r<@I0:4XkZ9J|[0Ts=%)6Drg~0/Q9Ue~_ROE*w&_?2Vo8b%kgy1su<LWtoMR79t+nRi,Zb;CA^CyLJ9Z|og_yoDys
  T7kH$0sHnPm~zM=fpSY4UOmz38koXYfv:)wh6sCRzmId_=At292b]+a9_iUP;%e!S]IghN$LNYM[mf9AHIGngq.MSe;~@DTu$_E[SPm<P1N/V5x)t3HUJW
  l:mkJfzKaBw0OQ.:sMGJ1L<jRMz//vBih<FZbICLZd;s)XE;B%!UGa^@Zic[uwK=:+Tm!@9<&v_qba@3p$&by)f$l3*wwEu~m,/sqZ/,mEJ);%p^+T~c~c
  K0wXQT&MSJqXfd3jAwLjmIn,;|Eu[JcHdlk0GX0V*x8Ot~?6z)]k6$+9ll/vj/pqLZN<oR;T4P)(Aex(dh^)ny|gngO,4|GBCTlFg8V,Gec@13@j,pY^<Z
  xMe~InZHIfQu7S!3%n8hF?dk4ng|i(9PKZvf<ob=g7u6Tu0ml7?NaJ$^G./3HgZi=%Rj~JWe~R]Ldi&!:CFT^SBgvx:DqW=PU3A_zE09VApfcwdlI=WZ|Y
  $/0:I*sKzlaX?KBnBDILFM^9aO[E6B$(r/DBV:epjZyoW.@Q2DQXC8?])Hz4x^5]mr9R$D0Ha9:>%@/FOI+C)m.SCYdNDTN*%3KcT1GSc|AYC4LCRX|Bep
  ZqAp)oDSd@DC/[dJWGB!b6G29cA9=EVlI$&U%KmQ30@w1jyr.bN/Uh;~i2Uu(0<Q~CYYt_IMZ9R6lN_uLHQaU&JJ>m]L0/~^!b1&uhcME[lQv+0([Me7JD
  YNGx)DBrTz+f1w[IgrY_h)O[7oi/Z?%ZDf7P%yoNvu$Lct)eVE<2eQfY<Q=qjxtN|ztj,^;c|G9Fq[Q$k:+^*DGLyut,s=]sXWwtfWvD$6N!o5IxA~4[c0
  ,.[.N73?iNWH_S]RRr;0>T&G:5j1qDq7;;k/^Q6U.)xFaoy;7KcpkbZ&O$7ei::7E[**I!w>Ls0^^aMmUeTQuzGlih.5UB38_/PBLP.!k[KzWvD?zL)5q3
  Blt~ey;]|.UY;MpSS%vPVC>dGyO$jkJgFhYKK/p2YGWV92$*>NXi<0QW|?s,bOzez)4pfq!.XJgG]Y76EYyLC*M1Y$e(>rQy[t$|Xm/Pcu:ud/,ONPYDdH
  QfK5d^l_ul6P$G+NjdsCn9VDvO5cSA^~A@KUGA<.3Je(%_gwTc(E,9aPB*cq5*<u(?a*k3d%qp!AbwH]4,TMspiCpV<Fo[^]wa,2=,QV^wVXp3UYxz86k/
  N;rR?,iS~7_HxGtu7DEVK)&t$n_rlm;+2o.&$Nv@dq(!Y;~P(a&sx]zBQ<o4|c&A([B%|.hWY<4a%j3.hV9Ll;4IUbn)yi*YQRcX1t2GC~xwW1k*k@icV?
  O^Y;q%oky:zGnlMP!<~No:yYMas_hLvzoF6ptnVm]668;^+^fhEmDS>T@b<,cMS_tUi*H5Shpd@BY5)O6jg:LK7N2NAR+_btV!k+,BKQc*f0M@l[JLYrDZ
  [ao:e(kZ=kPaV%lPuWt<W6tSa4]>$d?A;K*Ig;:%QywYUth1qbgZ13?1N*+0QL~E~YpP^iQOv^vuJ34KCrkJ3e8hHoOiLbd1MIlDz%X/1n.Y6sEuxYWRgt
  &vl;+(iH9M~0DXhXu%Uywtfb/>H6?GcE0xrLY1.0Tf*6Di%K;)4Q&p,sfJR*&cSsp9pf.vX|cxTLfO/y,$Kx|,nO,Jg$^>jbDZ[)BN~l.P*b*Li8$b)<%F
  5|vf^,Q=3;~>ZSkOiOv|*|mg!.[>QL*%L(F/ao:u4b/pg_lphJC4D+t_+)S0Kiw_r4PV9^jye<cT6bW~M?B3J.)pNz=Pl4t](RN%r+]s9t?b%<,yr:O$Lq
  4orM!^XHA,OIL;K[AR37E8T+Vp*Sr$+hh09_ThFuVTZ9Ir@B96|o^2qQBJHi]:jI=,/_s$DQPRw&wRK.pHiiUS4oK@5I>zx4O0.zZd>RdxskGCOt|xR)u/
  >Lcx2fuSa|^AS7rL4B@2)lmFOoM]RVb(xiYH|3!6atPKQ[v!@4g*OU?xHEO+%^VMb=:%8JD,9vYP9sT&6TDYSB3)d1LbC~;slUS+WM!EO@)W/S3vIwKEB%
  ^/I+2tmJJvi_=!YEZDgBa0PP4.NzE>4Y[k5j88]Dt@Z;!C$BB$if!z?yg~!4V2M69vC$ZqmarR369D4!|]E+X7O%8pPDebs%fGLU9wxVcjPKCwkv:dQTmx
  &!zccA_5GL)qi_lopNwwX^KX?Jqta(/K|6fVC$&92KlRel(dF,ZA4|T;<3z!Dkx$Os:.nUqd3fiuZPmX$h96tq[@Qd$k4vK9aPrf;a:Y4Yz6Af:QqVy0Ed
  jJm&hfAOY=<I5BPYFf1>JTqvgDN&X(uv;16I,$3?E!tPcG0Eg(v~&v4.cZ]1)![>a7)2*>0J2OWT3aleBwf1j9^0*WmUHY_(y!lx/+K_MnUgyskJVGIh8~
  JM+y:G2P(Un(ga*&I9runH9wP/i*EQs?=h1a+kcVKc]F?Ug)z1dpP_>g;hXH,_WMJLxQljF:3Qu<jSju$Bd48AI%:UM5F&7|YKJFM>8adlpHJLHMemp:YQ
  h_DUdg)R;6WIc:3r_<?KkBX4fflHeX<)99&V@),>S24U[pPVn]OElBJxH~m8AgtK16W9qi7L:C,O$a21D2ApZn37$*G=b>=LV5ZV%Z$c8?Tx^Wn_cDtnp5
  L],s=(FcRG9x+5fG:ge@BgVU9WZ))2tB0!^!Y<jouaaVBqAupe)o67QAzH$mO9KZ,9n,1MXPS2^o=nf8=J<uo8uAl].j1A=L+%(LwPP%!2F!lJ2oCQoFBk
  &L|~~.h74mtNEY8]|*&IPB?RNGw^(Bz@xGvF!@fMZ=m(Pta[]Ryyic9lj%B2Ec=)dnx&;DLAc9cWx2bMph^fg>e4?C3AlV_Ooy|@WeE|(%w_Vp|LYq6V9[
  P+*l[R1J19tuOF;.>L=:X*qq26.qU!eaTQuQ:+1I5kFgga/DvPd[caa0Ju&UIYKUUSpCIxqVC!(KAIjN_[tVn<4w7LLk,AtAUg3?i!2U1N[T^0k5I_qKX*
  j/ZK[xw4c52o,*ZD[I@%>I.@Jha=)R(2m<rVu>XYF_>NO7o4HKoDYGFi:]absmj];rMQQf1$Ksy$/Fh<$CB.&&N9*bI>NbP&x]71?x^<LmPsi_JJxHA%5+
  ?B4N~!h;V@IQk)dA;CJEe$4Yya$v=U&~>E+V|/+nV,_,(nYC2sOpb5;Vw1gN5*Pv,LIeysa~yu;o^y?WI~Ki*32o@LP4ftY9cIuW4Dz+PRN])GLTTV55Xj
  ~(,|~^qq[Os,]$EOg1*@,PQ[qQmLis7]0NHqtX).jTZ%>L1/F(5SxzgF*WpOg&|4?k>6ZdW;%W5EBt7;$JQbeiQGUL>.IB8VF]:6YuTDqu[28:wy5tC=%@
  <FqiKm,+uf2n2GV*Q$zuV8!cWu,@x*lq+QQy,z0xkB_K9uEDMDDqs2d3i/d(p>Q~u?@5e@B3p*Wk+ezny:&Yh1!/V~(|2C*$xLOky&%bVFTACqSwOMU825
  &*>+UI4Pma,vN+wh]=QhR=vKSF,QhZx0^nGC]&<bxO+!h=>^AwW.@xFlFCbRP4/3Toh+w:rXEj%TQ_*S7+_2i^%]LRew,Z2CU%i3_9Ng]iff[|B*|NltPF
  A|>3!zR$bK5o2Z|~yx_n=G&[~WQRLfF91YA*BW5e@0A;wSY&]_JlBA<f[YFcsLz.lNpx%iK4,a]fXMr==zA(nSR]G&m3?khly4/@Cn*4yJxGQ|)@%H*pTW
  ctzv/PQ4Yfos$jn<duJ]qWs985qY0EXBij|Mo.i4RL35cbrbuYy*2Xq5x+,Xr]C%4?_^^~HgIWYPjo~C6ZZJA(TV^MX~k7?9ymUp=72(y$G+gAw<G:UiOn
  dm:Pd<^@xr,+7;sszPA~/@0_ssOfQ!BzKHrHwLJ]zRta?B%P><MwjkXnu+t(o2/tbpi_CyMsw9Gs/<W%zMC[]TeXey!S?oo?K<sRR)UXY1&^0eL)bQuwK.
  ly<J(X:yMhp~.)C!lGC0:Gop+RW1eq9JZEBBAQCQ)imrCdf.*s?[i,q3aS88+LrL3tp@x(y%n:toA=m5[yQo_!/1RvEcvKeLi$W)FzManp0^uEDh)NUMO&
  d2o<v(%|Rri!qJuxB>6vim~<4OJwZga+,J)f=baN>5n9dQ*xWxITLb0Qoa]2*)aucyqW389[c4_^~@IVq!!$T!R%A,P1)<5K=04lL%Xy)W>cGdg=QZCN%+
  :jZnFmvR?j3yE=FcxRE)c|C%N*AmQUC__),I9HGVKdtz(j0IVpCymWPv=Mopj;2lUUIXJ@>aPB4YZ50VXScK0%^_ZzAw!wc%G!<N%a/=oxA>a|d(8HDd]w
  HG%V@SkiU&g%k(A<hN(jR)S*?DQ.:_[/AUEI]@vx0WBApIG3v(411rI.@[9P23G4!*F45?HU~85k*N/2EdaVS4?m:MMW+7f_CQ]iPTw;_K[JX>:1Cs@Bpe
  |FLtyd%wU~0BI[P2oRL>P3aKC%QnIzkZNR!]B>[PX,JHsF7YMhhc+IEDi!1[$Y:~f$FyXU;9VIQ*_Q<5s=5O$]W$myu[1BgR26(=&<Bv+2[W:;mF!C)shN
  &yDW5Wls!>DW2]M%G?8W?^f7^*e|(d?R0^M6,Z*+>DfTB6F(2A~U,5cXmp_ewdCEPdvb3b%GFaVsUwwTJkvNBZ3$7<lJh8SyqL3J)Rn[8OCzFD^b<Iy[[C
  e%R362C>,6WICt,C7c/cAjc]0xBcM=FgtcOMtS:R|]z.>vZO(fE||pdB<LD!4a1uCZcKXjaMbEAa79?5F?kueYs36fiPS9U98_LdP<11c8~Z]Qq!A8c2U+
  eS0nel~1z<a8FpvTR.xC~s<m3Qhr1Ljt9yqIaS~ydW(z[+iI5r?pXoCev%+6M)&M[s>v9jm?WzFrw>Igz0o9MTt7!q31M/&?3^kq>)FMhiDU<o_yYS$2UM
  &_m9u1U4&W5uN:;[f34NXeYwL|^l|8Sqlf_rvN:puN|bMx.O*4&$HN(Z;y)y/Ou(qG4^A)Rk0VSDXnVhK*?gu=YrH$C(7FD;;V$q4O5&T3~b?)bI)f|MgN
  xR$:BSi!w5*850A8dU+lGh]R1_;cfMv2n&/y866Ts<[yx9>kQm[xQf0,~SrP)rU_BRc?.OkFPY/f4w4N|)+C09Lqe/w,3aou+<wKIl<g@PgLQI%?LReL2<
  m2zDK@)v*aa1NmI,/k!oG~3%Ts4(p[bFkxOI5vY,W3(!d;[$o:2Nt1q68dc5=9MgNRKGl*<7|C[T)(YY*NBZc^|nGc<*=<9<F27R%j!;D[wFptpZDs:VqK
  efT@,O=[J<l23:GUv4;3pIb.o,(R!k<wW.fo,.C=*d[S^lXmPayqSgC!Ow*YkjmSTBP=+_i4OUi%$scJUsknD)_13wA@tx3_F3V)MO(B./m4t?+!m%3=3=
  ~/dpk[KPWz&fJ;hQ8[McBz=NItAHyv[Ft>t|v~DQWfGKMDB~nU/BElaj0OlG/NMBM^YXm29M_zq)%)R]/=&l3v1In/y41OjnRyG~7jiWK%AcM/k>=XeiI1
  !lJ!H*ByBs>ye^HnTd35!)A^!q9F22scFfS/5A(ODm@1X(aB@[r$=w&i5vt8.jXBS_~gc9i()DHFh=1(fUMMqc1?xEe==uhgWD*g@K3c*,R!cwA*?Jakkj
  !oRv[H<19VeH,.^7k].(f;ED<nbH4B7!0<In|;B7U;VvY?kj,?R[:>$sg0F.s~@%==[1Ls7I@F&q!Jn|]wQFzB0A[Z@6tPFB%]RZiaX5Y3(rRWlcp;Vfwq
  h|Fd/1nzGQa%?dKY|Zx<>%%|8e:wjyf9nHV|3FBm@wCqG8KcTAX[I84J*ppFVrNJ6D@@Y6zB>Jf%G]m@W1zaP*1bN:Ciy_8:XTk3E?,_<3ONg2rzY_pO*/
  ~&p18]P3^%d4toN:au&r1Z=k;_DA2@nMdwS|ic2,5q+hzXQnXwKf+PoOXA>50RG^RR.oiJeC)2w~EwRT|:E$1Ig~r?MvS52vdA@xV|QWAV_+r^ng.Q$/uN
  &Z]]!.1WUV>5RJF<rFvZg/gN1YS%>uL0eCOLLEV"

end CodeSurvey.Text
